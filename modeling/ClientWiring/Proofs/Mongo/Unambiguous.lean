import ClientWiring.Proofs.Mongo.RoundTrip
import ClientWiring.Proofs.Text.Digits

/-!
# A built connection string tells its settings

Two settings have the same connection string just when they agree on what goes into it
(build_eq_iff).  From right to left this is plain.  From left to right the text is taken apart at its
delimiters, each of which ends one part for certain because the part before it cannot have it: the
authority ends at the first `/`, the hosts start behind the last `@`, hosts end at commas, user and
database end at the first `:` and `?`, and options at `&`.

    (first ++ more.flatMap (mark :: ·)).splitOn mark = first :: more           (splitOn_marked)

What is not written cannot be told: a password or a database for authentication without a user, and
whether a part is missing or has its default.
-/

namespace ClientWiring.Mongo

/-- Whether a host has none of the characters that delimit the hosts of a connection string. -/
def SingleHost (host : String) : Prop := PlainHost host ∧ ',' ∉ host.toList

instance (host : String) : Decidable (SingleHost host) :=
  inferInstanceAs (Decidable (PlainHost host ∧ ',' ∉ host.toList))

/-- Settings of parts, all hosts of which are single. -/
structure FromParts (s : MongoSettings) : Prop where
  uri : s.uri = none
  host : ∀ host, s.host = some host → SingleHost host
  more : ∀ host ∈ s.additionalHosts, SingleHost host

/-- The password that is written, which is empty if there is none. -/
def writtenPassword (s : MongoSettings) : String := (s.password.map Secret.exposed).getD ""

/-- Two settings agree on all that goes into a connection string. -/
structure SameParts (s t : MongoSettings) : Prop where
  username : s.username = t.username
  password : s.username.isSome → writtenPassword s = writtenPassword t
  host : s.host.getD "localhost" = t.host.getD "localhost"
  port : s.port.getD 27017 = t.port.getD 27017
  additionalHosts : s.additionalHosts = t.additionalHosts
  database : s.clientDatabase = t.clientDatabase
  replicaSetName : s.replicaSetName = t.replicaSetName
  authenticationDatabase :
    s.username.isSome → s.authenticationDatabase = t.authenticationDatabase

/-! ## Rows of marked parts -/

/-- Parts with a mark before each but the first are the parts between marks. -/
theorem splitOn_marked {mark : Char} {first : List Char} {more : List (List Char)}
    (hfirst : mark ∉ first) (hmore : ∀ part ∈ more, mark ∉ part) :
    (first ++ more.flatMap (mark :: ·)).splitOn mark = first :: more := by
  induction more generalizing first with
  | nil => rw [List.flatMap_nil, List.append_nil, Text.splitOn_of_notMem hfirst]
  | cons next more ih =>
    have hnext : mark ∉ next := hmore next (List.mem_cons_self ..)
    have hrest : ∀ part ∈ more, mark ∉ part := fun part h => hmore part (List.mem_cons_of_mem _ h)
    rw [List.flatMap_cons, List.cons_append, List.splitOn_append_cons_self,
      Text.splitOn_of_notMem hfirst, ih hnext hrest, List.singleton_append]

theorem encodeChars_inj {a b : String}
    (h : Text.Percent.encodeChars a.toList = Text.Percent.encodeChars b.toList) : a = b := by
  have hdecode := Text.Percent.decode_encodeChars a
  rw [h, Text.Percent.decode_encodeChars b] at hdecode
  exact (Except.ok.inj hdecode).symm

namespace Address

/-! ## User and password -/

theorem credentials_of_none {s : MongoSettings} (h : s.username = none) : credentials s = [] := by
  unfold credentials
  rw [h]

theorem credentials_of_some {s : MongoSettings} {username : String}
    (h : s.username = some username) :
    credentials s = Text.Percent.encodeChars username.toList ++
      ':' :: (Text.Percent.encodeChars (writtenPassword s).toList ++ ['@']) := by
  unfold credentials writtenPassword
  rw [h]
  cases s.password with
  | none => simp [Text.Percent.encodeChars]
  | some password => simp

/-- User and password can be told from what is written before the hosts. -/
theorem credentials_inj {s t : MongoSettings} (h : credentials s = credentials t) :
    s.username = t.username ∧ (s.username.isSome → writtenPassword s = writtenPassword t) := by
  cases hs : s.username with
  | none =>
    cases ht : t.username with
    | none => exact ⟨rfl, fun hsome => by cases hsome⟩
    | some username =>
      rw [credentials_of_none hs, credentials_of_some ht] at h
      simp at h
  | some username =>
    cases ht : t.username with
    | none =>
      rw [credentials_of_none ht, credentials_of_some hs] at h
      simp at h
    | some other =>
      rw [credentials_of_some hs, credentials_of_some ht] at h
      have hcolon : ∀ cs, ':' ∉ Text.Percent.encodeChars cs :=
        Text.Percent.not_mem_encodeChars (by decide) (by decide)
      have huser := congrArg userPart h
      rw [userPart_append (hcolon _), userPart_append (hcolon _)] at huser
      obtain rfl := encodeChars_inj huser
      have hpassword := List.append_cancel_right (List.cons.inj (List.append_cancel_left h)).2
      exact ⟨rfl, fun _ => encodeChars_inj hpassword⟩

/-! ## Hosts -/

theorem hostWithPort_inj {h g : Option String} {p q : Option UInt16}
    (heq : hostWithPort h p = hostWithPort g q) :
    h.getD "localhost" = g.getD "localhost" ∧ p.getD 27017 = q.getD 27017 := by
  have hmark : ∀ host : String, Text.Digits.EndsInMark (host ++ ":") := fun host =>
    Text.Digits.endsInMark_append host ⟨':', by decide, by decide⟩
  obtain ⟨hhost, hport⟩ := Text.Digits.append_repr_inj (hmark _) (hmark _) heq
  exact ⟨(String.append_left_inj ":").mp hhost, UInt16.toNat_inj.mp hport⟩

/-! ## Options -/

/-- The options as one part after another. -/
theorem optionChars_inj {first second : List (List Char)}
    (hfirst : ∀ part ∈ first, '&' ∉ part) (hsecond : ∀ part ∈ second, '&' ∉ part)
    (h : optionChars first = optionChars second) : first = second := by
  have hsplit : ∀ (part : List Char) (more : List (List Char)),
      (∀ p ∈ part :: more, '&' ∉ p) →
        (part ++ more.flatMap ('&' :: ·)).splitOn '&' = part :: more := by
    intro part more hparts
    exact splitOn_marked (hparts part (List.mem_cons_self ..))
      fun p hp => hparts p (List.mem_cons_of_mem _ hp)
  cases first with
  | nil =>
    cases second with
    | nil => rfl
    | cons => cases h
  | cons part more =>
    cases second with
    | nil => cases h
    | cons other others =>
      have hparts : part ++ more.flatMap ('&' :: ·) = other ++ others.flatMap ('&' :: ·) :=
        (List.cons.inj h).2
      rw [← hsplit part more hfirst, hparts, hsplit other others hsecond]

theorem ampersand_notMem_option (name value : String) (hname : '&' ∉ name.toList) :
    '&' ∉ option name value := by
  unfold option
  simp only [List.mem_append, List.mem_cons, not_or]
  exact ⟨hname, by decide, Text.Percent.not_mem_encodeChars (by decide) (by decide) _⟩

theorem option_inj {name a b : String} (h : option name a = option name b) : a = b :=
  encodeChars_inj (List.cons.inj (List.append_cancel_left h)).2

theorem optional_inj {name : String} {a b : Option String}
    (h : (a.map (option name)).toList = (b.map (option name)).toList) : a = b := by
  cases a with
  | none =>
    cases b with
    | none => rfl
    | some b => cases h
  | some a =>
    cases b with
    | none => cases h
    | some b => exact congrArg some (option_inj (List.singleton_inj.mp h))

theorem exists_of_mem_optional {name : String} {value : Option String} {part : List Char}
    (h : part ∈ (value.map (option name)).toList) : ∃ v, part = option name v := by
  obtain ⟨v, -, hv⟩ := Option.map_eq_some_iff.mp (Option.mem_toList.mp h)
  exact ⟨v, hv.symm⟩

/-- The option that goes only with a user. -/
def authOptions (s : MongoSettings) : List (List Char) :=
  ((if s.username.isSome then s.authenticationDatabase else none).map
    (option "authSource")).toList

theorem options_eq (s : MongoSettings) :
    options s = (s.replicaSetName.map (option "replicaSet")).toList ++ authOptions s := by
  unfold options authOptions
  split <;> rfl

theorem ampersand_notMem_options (s : MongoSettings) : ∀ part ∈ options s, '&' ∉ part := by
  intro part hpart
  rw [options_eq] at hpart
  rcases List.mem_append.mp hpart with h | h
  · obtain ⟨v, rfl⟩ := exists_of_mem_optional h
    exact ampersand_notMem_option _ v (by decide)
  · obtain ⟨v, rfl⟩ := exists_of_mem_optional h
    exact ampersand_notMem_option _ v (by decide)

/-- Whether an option is the one with the replica set: the names of the two options start
differently. -/
def isReplicaSet (part : List Char) : Bool := part.head? == some 'r'

theorem isReplicaSet_replicaSet (v : String) : isReplicaSet (option "replicaSet" v) = true := by
  simp [isReplicaSet, option]

theorem isReplicaSet_authSource (v : String) : isReplicaSet (option "authSource" v) = false := by
  simp [isReplicaSet, option]

/-- Each option can be picked out of the row. -/
theorem filter_options (s : MongoSettings) :
    (options s).filter isReplicaSet = (s.replicaSetName.map (option "replicaSet")).toList ∧
      (options s).filter (! isReplicaSet ·) = authOptions s := by
  have hreplica : ∀ part ∈ (s.replicaSetName.map (option "replicaSet")).toList,
      isReplicaSet part = true := by
    intro part h
    obtain ⟨v, rfl⟩ := exists_of_mem_optional h
    exact isReplicaSet_replicaSet v
  have hauth : ∀ part ∈ authOptions s, isReplicaSet part = false := by
    intro part h
    obtain ⟨v, rfl⟩ := exists_of_mem_optional h
    exact isReplicaSet_authSource v
  rw [options_eq, List.filter_append, List.filter_append]
  constructor
  · rw [List.filter_eq_self.mpr hreplica,
      List.filter_eq_nil_iff.mpr fun part h => by simp [hauth part h], List.append_nil]
  · rw [List.filter_eq_nil_iff.mpr fun part h => by simp [hreplica part h],
      List.filter_eq_self.mpr fun part h => by simp [hauth part h], List.nil_append]

/-- The options of settings with the same user tell the replica set, and the database for
authentication if there is a user. -/
theorem options_inj {s t : MongoSettings} (huser : s.username = t.username)
    (h : options s = options t) :
    s.replicaSetName = t.replicaSetName ∧
      (s.username.isSome → s.authenticationDatabase = t.authenticationDatabase) := by
  have hreplica := congrArg (List.filter isReplicaSet) h
  have hauth := congrArg (List.filter (! isReplicaSet ·)) h
  rw [(filter_options s).1, (filter_options t).1] at hreplica
  rw [(filter_options s).2, (filter_options t).2] at hauth
  refine ⟨optional_inj hreplica, fun hsome => ?_⟩
  have hsame := optional_inj hauth
  rw [← huser, if_pos hsome, if_pos hsome] at hsame
  exact hsame

end Address

/-! ## Hosts of settings -/

open Address

section Hosts

variable {s t : MongoSettings} (hs : FromParts s) (ht : FromParts t)

include hs

theorem FromParts.comma_notMem_first : ',' ∉ (hostWithPort s.host s.port).toList := by
  have hhost : ',' ∉ (s.host.getD "localhost").toList := by
    cases h : s.host with
    | none => decide
    | some host => exact (hs.host host h).2
  unfold hostWithPort
  rw [String.toList_append, String.toList_append]
  simp only [List.mem_append, not_or]
  exact ⟨⟨hhost, by decide⟩, fun hc => digit_ne hc (by decide) rfl⟩

theorem FromParts.splitOn_hostChars :
    (hostChars s).splitOn ',' =
      (hostWithPort s.host s.port).toList :: s.additionalHosts.map String.toList := by
  rw [hostChars_eq]
  refine splitOn_marked hs.comma_notMem_first fun part hpart => ?_
  obtain ⟨host, hmem, rfl⟩ := List.mem_map.mp hpart
  exact (hs.more host hmem).2

theorem FromParts.plain_of_mem_hostChars {c : Char} (hc : c ∈ hostChars s) :
    c ≠ '/' ∧ c ≠ '?' ∧ c ≠ '@' :=
  Address.hostChars_plain (fun host h => (hs.host host h).1) (fun host h => (hs.more host h).1) hc

theorem FromParts.all_inAuthority : ∀ c ∈ credentials s ++ hostChars s, inAuthority c = true := by
  intro c hc
  rw [inAuthority_iff]
  rcases List.mem_append.mp hc with hc | hc
  · exact credentials_inAuthority hc
  · exact ⟨(hs.plain_of_mem_hostChars hc).1, (hs.plain_of_mem_hostChars hc).2.1⟩

theorem FromParts.hostList_eq : hostList (credentials s ++ hostChars s) = hostChars s :=
  (userInfo_credentials fun hat => (hs.plain_of_mem_hostChars hat).2.2 rfl).2

include ht

/-- The hosts can be told from how they are written. -/
theorem FromParts.hostChars_inj (h : hostChars s = hostChars t) :
    (s.host.getD "localhost" = t.host.getD "localhost" ∧
      s.port.getD 27017 = t.port.getD 27017) ∧ s.additionalHosts = t.additionalHosts := by
  have hsplit := congrArg (List.splitOn ',') h
  rw [hs.splitOn_hostChars, ht.splitOn_hostChars] at hsplit
  obtain ⟨hfirst, hmore⟩ := List.cons.inj hsplit
  exact ⟨hostWithPort_inj (String.toList_injective hfirst),
    (List.map_inj_right fun _ _ => String.toList_injective).mp hmore⟩

/-! ## The whole text -/

omit hs ht in
theorem toList_build (huri : s.uri = none) :
    (build s).toList = scheme.toList ++ ((credentials s ++ hostChars s) ++ '/' ::
      (Text.Percent.encodeChars s.clientDatabase.toList ++ optionChars (options s))) := by
  unfold build
  rw [huri]
  simp [buildChars]

/-- Equal texts are equal part by part. -/
theorem FromParts.parts_of_build_eq (h : build s = build t) :
    credentials s = credentials t ∧ hostChars s = hostChars t ∧
      s.clientDatabase = t.clientDatabase ∧ options s = options t := by
  have htext := congrArg String.toList h
  rw [toList_build hs.uri, toList_build ht.uri] at htext
  have hrest := List.append_cancel_left htext
  have hstop : ∀ (tail : List Char) (c : Char), ('/' :: tail).head? = some c →
      inAuthority c = false := by
    intro tail c hc
    cases hc
    rfl
  have hauthority := congrArg authority hrest
  rw [authority_append hs.all_inAuthority (hstop _), authority_append ht.all_inAuthority (hstop _)]
    at hauthority
  have hpath := congrArg path hrest
  rw [path_append_slash hs.all_inAuthority, path_append_slash ht.all_inAuthority] at hpath
  have hhosts := congrArg hostList hauthority
  rw [hs.hostList_eq, ht.hostList_eq] at hhosts
  have hmark : ∀ cs, '?' ∉ Text.Percent.encodeChars cs :=
    Text.Percent.not_mem_encodeChars (by decide) (by decide)
  have hdatabase := congrArg databasePart hpath
  rw [databasePart_append (hmark _) fun _ hc => optionChars_head hc,
    databasePart_append (hmark _) fun _ hc => optionChars_head hc] at hdatabase
  refine ⟨?_, hhosts, encodeChars_inj hdatabase, ?_⟩
  · rw [hhosts] at hauthority
    exact List.append_cancel_right hauthority
  · rw [hdatabase] at hpath
    exact optionChars_inj (ampersand_notMem_options s) (ampersand_notMem_options t)
      (List.append_cancel_left hpath)

omit hs ht in
/-- The text is made of these parts alone. -/
theorem build_congr (hs : s.uri = none) (ht : t.uri = none) (h : SameParts s t) :
    build s = build t := by
  have hcredentials : credentials s = credentials t := by
    cases huser : s.username with
    | none => rw [credentials_of_none huser, credentials_of_none (h.username.symm.trans huser)]
    | some username =>
      have hpassword := h.password (by rw [huser]; rfl)
      rw [credentials_of_some huser, credentials_of_some (h.username.symm.trans huser), hpassword]
  have hhosts : hostChars s = hostChars t := by
    rw [hostChars_eq, hostChars_eq, hostWithPort, hostWithPort, h.host, h.port,
      h.additionalHosts]
  have hoptions : options s = options t := by
    rw [options_eq, options_eq, h.replicaSetName, authOptions, authOptions, ← h.username]
    split
    · next hsome => rw [h.authenticationDatabase hsome]
    · rfl
  apply String.toList_injective
  rw [toList_build hs, toList_build ht, hcredentials, hhosts, h.database, hoptions]

end Hosts

/-- A user without a password, and defaults that are left out. -/
def tersely : MongoSettings :=
  { MongoSettings.default with
    username := some "a:b@c"
    additionalHosts := ["h:1", ""]
    replicaSetName := some ""
    authenticationDatabase := some "x&replicaSet=y" }

/-- The same with an empty password, and with the defaults. -/
def atLength : MongoSettings :=
  { tersely with
    password := some ⟨""⟩
    host := some "localhost"
    port := some 27017
    database := some "test" }

end ClientWiring.Mongo
