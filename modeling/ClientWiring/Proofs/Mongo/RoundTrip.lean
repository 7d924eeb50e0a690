import ClientWiring.Proofs.Mongo.AddressParts
import ClientWiring.Proofs.Text.Percent

/-!
# A connection string that is built can be read

The parts of settings are written one after the other, and those that a caller may choose freely are
escaped first.  So no written part has a character at which the reader cuts, whatever user,
password, database or options are, and reading gives all parts back:

    parse (build s) = .ok …                                                   (parse_build)

Only the hosts are written as they are.  They must not have a `/`, a `?` or an `@`; a comma is
allowed, and separates hosts.
-/

namespace ClientWiring.Mongo

/-- Whether a host has no character that ends or opens the hosts of a connection string. -/
def PlainHost (host : String) : Prop := ∀ c ∈ host.toList, c ≠ '/' ∧ c ≠ '?' ∧ c ≠ '@'

instance (host : String) : Decidable (PlainHost host) :=
  List.decidableBAll (fun c => c ≠ '/' ∧ c ≠ '?' ∧ c ≠ '@') host.toList

/-- The parts of a host between commas that are not empty. -/
def hostPieces (host : String) : List String :=
  ((host.toList.splitOn ',').filter (· ≠ [])).map String.ofList

/-- A host and a port, each the default one if none is given. -/
def hostWithPort (host : Option String) (port : Option UInt16) : String :=
  host.getD "localhost" ++ ":" ++ (port.getD 27017).toNat.repr

namespace Address

/-! ## Characters of the written parts -/

theorem digit_ne {c d : Char} {n : Nat} (hc : c ∈ n.repr.toList) (hd : d.isDigit = false) :
    c ≠ d := by
  rintro rfl
  rw [Nat.toList_repr] at hc
  have hdigit := Nat.isDigit_of_mem_toDigits (by decide) (by decide) hc
  rw [hd] at hdigit
  cases hdigit

theorem defaultHost_plain : PlainHost MongoSettings.defaultHost := by decide

section Hosts

variable {s : MongoSettings} (hhost : ∀ host, s.host = some host → PlainHost host)
  (hmore : ∀ host ∈ s.additionalHosts, PlainHost host)

include hhost hmore

/-- The written hosts have none of the characters that end or open them. -/
theorem hostChars_plain {c : Char} (hc : c ∈ hostChars s) : c ≠ '/' ∧ c ≠ '?' ∧ c ≠ '@' := by
  have hfirst : PlainHost (s.host.getD MongoSettings.defaultHost) := by
    cases h : s.host with
    | none => exact defaultHost_plain
    | some host => exact hhost host h
  unfold hostChars at hc
  simp only [List.append_assoc, List.mem_append, List.mem_cons, List.cons_append,
    List.mem_flatMap] at hc
  rcases hc with hc | rfl | hc | ⟨host, hmem, rfl | hc⟩
  · exact hfirst c hc
  · decide
  · exact ⟨digit_ne hc (by decide), digit_ne hc (by decide), digit_ne hc (by decide)⟩
  · decide
  · exact hmore host hmem c hc

end Hosts

theorem credentials_inAuthority {s : MongoSettings} {c : Char} (hc : c ∈ credentials s) :
    c ≠ '/' ∧ c ≠ '?' := by
  have henc : ∀ cs, c ∈ Text.Percent.encodeChars cs → c ≠ '/' ∧ c ≠ '?' := by
    intro cs h
    constructor
    · rintro rfl
      exact Text.Percent.not_mem_encodeChars (by decide) (by decide) cs h
    · rintro rfl
      exact Text.Percent.not_mem_encodeChars (by decide) (by decide) cs h
  unfold credentials at hc
  cases hu : s.username with
  | none => simp [hu] at hc
  | some username =>
    rw [hu] at hc
    simp only [List.append_assoc, List.mem_append, List.mem_cons, List.cons_append,
      List.not_mem_nil, or_false] at hc
    rcases hc with hc | rfl | hc | rfl
    · exact henc _ hc
    · decide
    · cases hp : s.password with
      | none => simp [hp] at hc
      | some password =>
        rw [hp] at hc
        exact henc _ hc
    · decide

theorem optionChars_head {options : List (List Char)} {c : Char}
    (hc : (optionChars options).head? = some c) : c = '?' := by
  cases options with
  | nil => cases hc
  | cons first rest => exact (Option.some.inj hc).symm

/-! ## Reading the parts -/

/-- The hosts as they are written, the first with its port. -/
theorem hostChars_eq (s : MongoSettings) :
    hostChars s = (hostWithPort s.host s.port).toList ++
      (s.additionalHosts.map String.toList).flatMap (',' :: ·) := by
  unfold hostChars hostWithPort
  simp [List.flatMap_map, MongoSettings.defaultHost, MongoSettings.defaultPort]

theorem hostChars_pieces (s : MongoSettings) :
    (splitHosts (hostChars s)).map String.ofList =
      (hostWithPort s.host s.port :: s.additionalHosts).flatMap hostPieces := by
  rw [hostChars_eq, splitHosts_flatMap, List.map_append, List.flatMap_cons, List.map_flatMap,
    List.flatMap_map]
  rfl

theorem splitHosts_hostChars_ne_nil (s : MongoSettings) : splitHosts (hostChars s) ≠ [] := by
  refine splitHosts_ne_nil (c := ':') ?_ (by decide)
  unfold hostChars
  simp

/-- A user is written before the hosts, or nothing is. -/
theorem userInfo_credentials {s : MongoSettings} {hosts : List Char} (h : '@' ∉ hosts) :
    decodeOptional ((userInfo (credentials s ++ hosts)).map userPart) = .ok s.username ∧
      hostList (credentials s ++ hosts) = hosts := by
  cases hu : s.username with
  | none =>
    have hnil : credentials s = [] := by
      unfold credentials
      rw [hu]
    rw [hnil, List.nil_append, userInfo_of_not_mem h, hostList_of_not_mem h]
    exact ⟨rfl, rfl⟩
  | some username =>
    obtain ⟨secret, hsecret⟩ : ∃ secret, credentials s =
        (Text.Percent.encodeChars username.toList ++ ':' :: secret) ++ ['@'] := by
      unfold credentials
      rw [hu]
      exact ⟨_, rfl⟩
    have hcut : credentials s ++ hosts =
        (Text.Percent.encodeChars username.toList ++ ':' :: secret) ++ '@' :: hosts := by
      rw [hsecret, List.append_assoc]
      rfl
    rw [hcut, userInfo_of_info _ h, hostList_of_info _ h]
    have huser : userPart (Text.Percent.encodeChars username.toList ++ ':' :: secret) =
        Text.Percent.encodeChars username.toList :=
      userPart_append (Text.Percent.not_mem_encodeChars (by decide) (by decide) _) secret
    rw [Option.map_some, huser]
    exact ⟨decodeOptional_of_decode (Text.Percent.decode_encodeChars username), rfl⟩

theorem database_encodeChars (database : String) {tail : List Char}
    (hstop : ∀ c, tail.head? = some c → c = '?') :
    decodeOptional (nonEmptyChars
        (databasePart (Text.Percent.encodeChars database.toList ++ tail))) =
      .ok (if database = "" then none else some database) := by
  rw [databasePart_append (Text.Percent.not_mem_encodeChars (by decide) (by decide) _) hstop]
  unfold nonEmptyChars
  by_cases hd : database = ""
  · subst hd
    rfl
  · have hne : Text.Percent.encodeChars database.toList ≠ [] := by
      rw [Ne, Text.Percent.encodeChars_eq_nil_iff, String.toList_eq_nil_iff]
      exact hd
    rw [if_neg hne, if_neg hd]
    exact decodeOptional_of_decode (Text.Percent.decode_encodeChars database)

/-! ## The round trip -/

theorem parse_build (s : MongoSettings) (huri : s.uri = none)
    (hhost : ∀ host, s.host = some host → PlainHost host)
    (hmore : ∀ host ∈ s.additionalHosts, PlainHost host) :
    parse (build s) = .ok
      { text := ⟨build s⟩
        isService := false
        username := s.username
        hosts := (hostWithPort s.host s.port :: s.additionalHosts).flatMap hostPieces
        database := if s.clientDatabase = "" then none else some s.clientDatabase } := by
  have htext : (build s).toList = scheme.toList ++ ((credentials s ++ hostChars s) ++ '/' ::
      (Text.Percent.encodeChars s.clientDatabase.toList ++ optionChars (options s))) := by
    unfold build
    rw [huri]
    simp [buildChars]
  have hin : ∀ c ∈ credentials s ++ hostChars s, inAuthority c = true := by
    intro c hc
    rw [inAuthority_iff]
    rcases List.mem_append.mp hc with hc | hc
    · exact credentials_inAuthority hc
    · obtain ⟨hslash, hmark, -⟩ := hostChars_plain hhost hmore hc
      exact ⟨hslash, hmark⟩
  have hat : '@' ∉ hostChars s := fun hc => (hostChars_plain hhost hmore hc).2.2 rfl
  have hauthority : authority ((credentials s ++ hostChars s) ++ '/' ::
      (Text.Percent.encodeChars s.clientDatabase.toList ++ optionChars (options s))) =
      credentials s ++ hostChars s := by
    refine authority_append hin fun c hc => ?_
    cases hc
    rfl
  obtain ⟨huser, hhosts⟩ := userInfo_credentials (s := s) hat
  have hdatabase := database_encodeChars s.clientDatabase
    fun c (hc : (optionChars (options s)).head? = some c) => optionChars_head hc
  unfold parse
  rw [htext, splitScheme_scheme]
  simp only [hauthority, hhosts, huser, path_append_slash hin, hdatabase,
    splitHosts_hostChars_ne_nil, hostChars_pieces, if_false, Bool.false_eq_true, false_and]

/-- Every free part has characters at which the reader cuts. -/
def sampleSettings : MongoSettings :=
  { MongoSettings.default with
    host := some "h1,h2"
    additionalHosts := ["h3:1,"]
    username := some "a:b@c,"
    password := some ⟨"@/?%"⟩
    database := some "d/?é"
    replicaSetName := some "r&s=t" }

theorem parse_build_sample :
    (build sampleSettings =
      "mongodb://a%3Ab%40c%2C:%40%2F%3F%25@h1,h2:27017,h3:1,/d%2F%3F%C3%A9?replicaSet=r%26s%3Dt") ∧
    parse (build sampleSettings) = .ok
      { text := ⟨build sampleSettings⟩
        isService := false
        username := some "a:b@c,"
        hosts := ["h1", "h2:27017", "h3:1"]
        database := some "d/?é" } := by
  refine ⟨by decide, ?_⟩
  refine (parse_build sampleSettings rfl ?_ ?_).trans rfl
  · intro host h
    cases h
    decide
  · decide

end Address

end ClientWiring.Mongo
