import ClientWiring.Proofs.Fallible
import ClientWiring.Proofs.Mongo.AddressParts
import ClientWiring.Proofs.Text.Percent

/-!
# The grammar of connection strings

A connection string is written as

    scheme authority rest            authority = user more '@' hosts   or   authority = hosts
                                     rest = '/' database more          or   anything else

where each piece ends at the first, and the hosts begin after the last, of the characters that
separate them (`Parts.Written`).  The reader accepts exactly the texts that are so written, have
hosts, and spell UTF-8 as user and database; and every other text it refuses for the first of these
that is hurt                                                          (parse_exactly_grammar).
-/

namespace ClientWiring.Mongo.Address

open Text.Percent (Spells)

/-! ## Grammar -/

/-- The written schemes. -/
def schemeOf (isService : Bool) : String :=
  if isService then "mongodb+srv://" else "mongodb://"

/-- User and hosts of an authority.  The user ends at the first `:`, and the hosts begin after the
last `@`; without an `@` there is no user. -/
inductive UserCut : List Char → Option (List Char) → List Char → Prop
  | named {user more hosts} (huser : ':' ∉ user) (hmore : ∀ c, more.head? = some c → c = ':')
      (hhosts : '@' ∉ hosts) : UserCut (user ++ more ++ '@' :: hosts) (some user) hosts
  | nameless {hosts} (hhosts : '@' ∉ hosts) : UserCut hosts none hosts

/-- The items of a list with commas that are not empty. -/
def HostItems (list : List Char) (items : List (List Char)) : Prop :=
  ∃ pieces, list = [','].intercalate pieces ∧ pieces ≠ [] ∧ (∀ piece ∈ pieces, ',' ∉ piece) ∧
    items = pieces.filter (· ≠ [])

/-- The database in what follows the authority: between a `/` and the next `?`. -/
inductive DatabaseCut : List Char → List Char → Prop
  | path {database more} (hdatabase : '?' ∉ database) (hmore : ∀ c, more.head? = some c → c = '?') :
      DatabaseCut ('/' :: (database ++ more)) database
  | noPath {rest} (hrest : rest.head? ≠ some '/') : DatabaseCut rest []

/-- The parts of a connection string, before anything is decoded. -/
structure Parts where
  isService : Bool
  authority : List Char
  /-- What follows the authority. -/
  rest : List Char
  user : Option (List Char)
  /-- The hosts with their commas. -/
  hostList : List Char
  hosts : List (List Char)
  database : List Char

namespace Parts

/-- A text is written with these parts. -/
structure Written (p : Parts) (text : List Char) : Prop where
  text : text = (schemeOf p.isService).toList ++ (p.authority ++ p.rest)
  authority : ∀ c ∈ p.authority, c ≠ '/' ∧ c ≠ '?'
  rest : ∀ c, p.rest.head? = some c → c = '/' ∨ c = '?'
  user : UserCut p.authority p.user p.hostList
  hosts : HostItems p.hostList p.hosts
  database : DatabaseCut p.rest p.database

/-- There are hosts; a service record is one host. -/
structure HasHosts (p : Parts) : Prop where
  some : p.hosts ≠ []
  single : p.isService = true → p.hosts.length = 1

/-- An accepted connection string keeps its text and shows what its parts spell. -/
structure Describes (p : Parts) (text : String) (a : Address) : Prop where
  text : a.text.exposed = text
  isService : a.isService = p.isService
  username : Option.Rel Spells p.user a.username
  hosts : a.hosts = p.hosts.map String.ofList
  database : ∃ database, Spells p.database database ∧
    a.database = if database = "" then none else some database

/-- Why parts are refused, the first reason first. -/
inductive Refused (p : Parts) : AppError → Prop
  | noHost (h : p.hosts = []) : p.Refused .noHost
  | severalHosts (hservice : p.isService = true) (h : 1 < p.hosts.length) :
      p.Refused .severalServiceHosts
  | username {user fault} (hhosts : p.HasHosts) (huser : p.user = some user)
      (h : Text.Percent.decode user = .error fault) : p.Refused (.badEscape fault)
  | database {fault} (hhosts : p.HasHosts)
      (huser : ∀ user, p.user = some user → ∃ name, Spells user name)
      (h : Text.Percent.decode p.database = .error fault) : p.Refused (.badEscape fault)

end Parts

/-! ## Cuts -/

theorem afterStart?_eq_some_iff (start text rest : List Char) :
    afterStart? start text = some rest ↔ text = start ++ rest := by
  constructor
  · intro h
    unfold afterStart? at h
    split at h
    · next hprefix =>
      obtain ⟨tail, rfl⟩ := List.isPrefixOf_iff_prefix.mp hprefix
      rw [List.drop_left] at h
      rw [Option.some.inj h]
    · cases h
  · rintro rfl
    exact afterStart?_append start rest

theorem splitScheme_eq_some_iff (text rest : List Char) (isService : Bool) :
    splitScheme text = some (isService, rest) ↔
      text = (schemeOf isService).toList ++ rest := by
  have hservice := afterStart?_eq_some_iff serviceScheme.toList text rest
  have hplain := afterStart?_eq_some_iff scheme.toList text rest
  cases isService with
  | true =>
    show _ ↔ text = serviceScheme.toList ++ rest
    rw [← hservice]
    unfold splitScheme
    cases afterStart? serviceScheme.toList text <;> simp
  | false =>
    show _ ↔ text = scheme.toList ++ rest
    constructor
    · intro h
      unfold splitScheme at h
      split at h
      · cases h
      · simpa [hplain] using h
    · rintro rfl
      exact splitScheme_scheme rest

theorem userCut_iff (authority : List Char) (user : Option (List Char)) (hosts : List Char) :
    UserCut authority user hosts ↔
      user = (userInfo authority).map userPart ∧ hosts = hostList authority := by
  constructor
  · intro h
    cases h with
    | @named user more hosts huser hmore hhosts =>
      rw [userInfo_of_info _ hhosts, hostList_of_info _ hhosts, Option.map_some]
      exact ⟨congrArg some ((cut_at_iff ':' _ _ _).mp ⟨rfl, huser, hmore⟩).1, rfl⟩
    | nameless hhosts =>
      rw [userInfo_of_not_mem hhosts, hostList_of_not_mem hhosts]
      exact ⟨rfl, rfl⟩
  · rintro ⟨rfl, rfl⟩
    by_cases hat : '@' ∈ authority
    · obtain ⟨info, hosts, rfl, hhosts⟩ := Text.exists_last_mark hat
      obtain ⟨hcut, huser, hmore⟩ := (cut_at_iff ':' info _ _).mpr ⟨rfl, rfl⟩
      rw [userInfo_of_info _ hhosts, hostList_of_info _ hhosts, Option.map_some]
      have hnamed := UserCut.named huser hmore hhosts
      rwa [← hcut] at hnamed
    · rw [userInfo_of_not_mem hat, hostList_of_not_mem hat]
      exact .nameless hat

/-- No piece between commas has a comma. -/
theorem not_mem_of_mem_splitOn {piece cs : List Char} (h : piece ∈ cs.splitOn ',') :
    ',' ∉ piece := by
  induction cs generalizing piece with
  | nil =>
    rw [List.splitOn_nil, List.mem_singleton] at h
    simp [h]
  | cons c rest ih =>
    obtain ⟨first, more, hsplit⟩ := List.exists_cons_of_ne_nil (List.splitOn_ne_nil ',' rest)
    rw [hsplit] at ih
    rw [List.splitOn_cons_eq_if_modifyHead, hsplit] at h
    split at h
    · rcases List.mem_cons.mp h with rfl | h
      · simp
      · exact ih h
    · next hne =>
      rcases List.mem_cons.mp h with rfl | h
      · have hfirst := ih List.mem_cons_self
        have hc : ',' ≠ c := fun e => hne (by simp [← e])
        simp [hc, hfirst]
      · exact ih (List.mem_cons_of_mem _ h)

theorem hostItems_iff (list : List Char) (items : List (List Char)) :
    HostItems list items ↔ items = splitHosts list := by
  constructor
  · rintro ⟨pieces, rfl, hne, hcomma, rfl⟩
    unfold splitHosts
    rw [List.splitOn_intercalate ',' hcomma hne]
  · rintro rfl
    exact ⟨list.splitOn ',', (List.intercalate_splitOn ',').symm, List.splitOn_ne_nil ',' list,
      fun piece => not_mem_of_mem_splitOn, rfl⟩

/-- What stands in a piece stands in the list. -/
theorem mem_intercalate {piece : List Char} {pieces : List (List Char)} (h : piece ∈ pieces) :
    ∀ c ∈ piece, c ∈ [','].intercalate pieces := by
  intro c hc
  induction pieces with
  | nil => cases h
  | cons first more ih =>
    by_cases hmore : more = []
    · subst hmore
      rw [List.mem_singleton.mp h] at hc
      simpa using hc
    · rw [List.intercalate_cons_of_ne_nil hmore, List.mem_append, List.mem_append]
      rcases List.mem_cons.mp h with rfl | h
      · exact .inl (.inl hc)
      · exact .inr (ih h)

theorem databaseCut_iff (text database : List Char) :
    DatabaseCut (text.dropWhile inAuthority) database ↔ database = databasePart (path text) := by
  unfold path
  constructor
  · intro h
    generalize text.dropWhile inAuthority = rest at h
    cases h with
    | path hdatabase hmore => exact ((cut_at_iff '?' _ _ _).mp ⟨rfl, hdatabase, hmore⟩).1
    | noPath hrest =>
      split
      · exact absurd rfl hrest
      · rfl
  · rintro rfl
    split
    · next path hrest =>
      obtain ⟨hcut, hdatabase, hmore⟩ := (cut_at_iff '?' path _ _).mpr ⟨rfl, rfl⟩
      rw [hrest]
      have hpath := DatabaseCut.path hdatabase hmore
      rwa [← hcut] at hpath
    · next hrest =>
      refine .noPath fun hhead => ?_
      obtain ⟨tail, htail⟩ := List.head?_eq_some_iff.mp hhead
      exact hrest tail htail

/-! ## Hosts -/

/-- The hosts are a part of the authority without an `@`. -/
theorem UserCut.mem_hosts {authority hosts : List Char} {user : Option (List Char)}
    (h : UserCut authority user hosts) : ∀ c ∈ hosts, c ∈ authority ∧ c ≠ '@' := by
  cases h with
  | named _ _ hhosts => exact fun c hc => ⟨by simp [hc], fun e => hhosts (e ▸ hc)⟩
  | nameless hhosts => exact fun c hc => ⟨hc, fun e => hhosts (e ▸ hc)⟩

/-- No host is empty, and none has a character that separates parts. -/
theorem Parts.Written.mem_hosts {p : Parts} {text host : List Char} (h : p.Written text)
    (hhost : host ∈ p.hosts) :
    host ≠ [] ∧ ∀ c ∈ host, c ≠ ',' ∧ c ≠ '/' ∧ c ≠ '?' ∧ c ≠ '@' := by
  obtain ⟨pieces, hlist, -, hcomma, hitems⟩ := h.hosts
  rw [hitems, List.mem_filter] at hhost
  obtain ⟨hpiece, hne⟩ := hhost
  refine ⟨by simpa using hne, fun c hc => ?_⟩
  obtain ⟨hauthority, hat⟩ := h.user.mem_hosts c (hlist ▸ mem_intercalate hpiece c hc)
  obtain ⟨hslash, hmark⟩ := h.authority c hauthority
  exact ⟨fun e => hcomma host hpiece (e ▸ hc), hslash, hmark, hat⟩

/-! ## Parts that are read -/

namespace Parts

/-- The parts of what follows the scheme. -/
def ofRest (isService : Bool) (rest : List Char) : Parts :=
  { isService
    authority := Address.authority rest
    rest := rest.dropWhile inAuthority
    user := (userInfo (Address.authority rest)).map userPart
    hostList := Address.hostList (Address.authority rest)
    hosts := splitHosts (Address.hostList (Address.authority rest))
    database := databasePart (path rest) }

theorem inAuthority_eq_false_iff (c : Char) : inAuthority c = false ↔ c = '/' ∨ c = '?' := by
  simp only [inAuthority, Bool.and_eq_false_iff, bne_eq_false_iff_eq]

theorem written_ofRest {text rest : List Char} {isService : Bool}
    (h : splitScheme text = some (isService, rest)) : (ofRest isService rest).Written text := by
  obtain ⟨hcut, hin, hstop⟩ := (cut_iff inAuthority rest _ _).mpr ⟨rfl, rfl⟩
  exact
    { text := by
        rw [(splitScheme_eq_some_iff text rest isService).mp h]
        exact congrArg _ hcut
      authority := fun c hc => (inAuthority_iff c).mp (hin c hc)
      rest := fun c hc => (inAuthority_eq_false_iff c).mp (hstop c hc)
      user := (userCut_iff _ _ _).mpr ⟨rfl, rfl⟩
      hosts := (hostItems_iff _ _).mpr rfl
      database := (databaseCut_iff rest _).mpr rfl }

/-- A text is written with the parts that are read, and with no others. -/
theorem written_iff (p : Parts) (text : List Char) :
    p.Written text ↔ ∃ rest, splitScheme text = some (p.isService, rest) ∧
      p = ofRest p.isService rest := by
  constructor
  · rintro ⟨htext, hauthority, hrest, huser, hhosts, hdatabase⟩
    refine ⟨p.authority ++ p.rest, (splitScheme_eq_some_iff _ _ _).mpr htext, ?_⟩
    obtain ⟨hfront, hback⟩ := (cut_iff inAuthority _ _ _).mp
      ⟨rfl, fun c hc => (inAuthority_iff c).mpr (hauthority c hc),
        fun c hc => (inAuthority_eq_false_iff c).mpr (hrest c hc)⟩
    obtain ⟨hnamed, hlist⟩ := (userCut_iff _ _ _).mp huser
    have hitems := (hostItems_iff _ _).mp hhosts
    have hpath := (databaseCut_iff (p.authority ++ p.rest) p.database).mp (hback ▸ hdatabase)
    have hcut : Address.authority (p.authority ++ p.rest) = p.authority := hfront.symm
    simp only [ofRest, hcut, ← hback, ← hnamed, ← hlist, ← hitems, ← hpath]
  · rintro ⟨rest, h, hp⟩
    rw [hp]
    exact written_ofRest h

end Parts

/-! ## Decoding -/

theorem decode_eq_ok_iff (cs : List Char) (s : String) : decode cs = .ok s ↔ Spells cs s := by
  rw [← Text.Percent.decode_eq_ok_iff]
  unfold decode
  cases Text.Percent.decode cs <;> simp

theorem decode_eq_error_iff (cs : List Char) (e : AppError) :
    decode cs = .error e ↔
      ∃ fault, Text.Percent.decode cs = .error fault ∧ e = .badEscape fault := by
  unfold decode
  cases Text.Percent.decode cs <;> simp [eq_comm]

theorem decodeOptional_some (cs : List Char) :
    decodeOptional (some cs) = (decode cs).map some := by
  simp only [decodeOptional]
  cases decode cs <;> rfl

theorem decodeOptional_eq_ok_iff (user : Option (List Char)) (name : Option String) :
    decodeOptional user = .ok name ↔ Option.Rel Spells user name := by
  cases user with
  | none => cases name <;> simp [decodeOptional]
  | some cs =>
    rw [decodeOptional_some]
    cases name with
    | none => cases decode cs <;> simp [Except.map]
    | some s =>
      rw [Option.rel_some_some, ← decode_eq_ok_iff]
      cases decode cs <;> simp [Except.map]

theorem decodeOptional_eq_error_iff (user : Option (List Char)) (e : AppError) :
    decodeOptional user = .error e ↔
      ∃ cs fault, user = some cs ∧ Text.Percent.decode cs = .error fault ∧ e = .badEscape fault := by
  cases user with
  | none => simp [decodeOptional]
  | some cs =>
    simp only [decodeOptional_some, Option.some.injEq, exists_and_left, exists_eq_left',
      ← decode_eq_error_iff]
    cases decode cs <;> simp [Except.map]

/-- An empty database is not decoded; it would spell the empty text. -/
theorem decodeOptional_nonEmptyChars (cs : List Char) :
    decodeOptional (nonEmptyChars cs) =
      (decode cs).map fun database => if database = "" then none else some database := by
  unfold nonEmptyChars
  by_cases hcs : cs = []
  · have hempty : decode cs = .ok "" :=
      (decode_eq_ok_iff cs "").mpr ((Text.Percent.spells_empty_iff cs).mpr hcs)
    rw [if_pos hcs, hempty]
    rfl
  · rw [if_neg hcs, decodeOptional_some]
    cases hs : decode cs with
    | error e => rfl
    | ok s =>
      have hne : s ≠ "" := by
        rintro rfl
        exact hcs ((Text.Percent.spells_empty_iff cs).mp ((decode_eq_ok_iff cs "").mp hs))
      simp [Except.map, hne]

/-! ## Checks -/

namespace Parts

/-- Checks parts that were cut out of a text, and decodes them. -/
def check (p : Parts) (text : String) : Except AppError Address :=
  if p.hosts = [] then .error .noHost
  else if p.isService ∧ 1 < p.hosts.length then .error .severalServiceHosts
  else
    match decodeOptional p.user with
    | .error e => .error e
    | .ok username =>
      match decodeOptional (nonEmptyChars p.database) with
      | .error e => .error e
      | .ok database =>
        .ok { text := ⟨text⟩, isService := p.isService, username,
              hosts := p.hosts.map String.ofList, database }

theorem hasHosts_iff (p : Parts) :
    p.HasHosts ↔ p.hosts ≠ [] ∧ ¬(p.isService = true ∧ 1 < p.hosts.length) := by
  constructor
  · rintro ⟨hsome, hsingle⟩
    refine ⟨hsome, ?_⟩
    rintro ⟨hservice, hmany⟩
    rw [hsingle hservice] at hmany
    omega
  · rintro ⟨hsome, hfew⟩
    refine ⟨hsome, fun hservice => ?_⟩
    have hpos := List.length_pos_iff.mpr hsome
    have hle : ¬1 < p.hosts.length := fun hmany => hfew ⟨hservice, hmany⟩
    omega

/-- Once there are hosts, user and database are decoded one after the other. -/
theorem check_of_hasHosts {p : Parts} (h : p.HasHosts) (text : String) :
    p.check text = (do
      let username ← decodeOptional p.user
      let database ← decode p.database
      .ok { text := ⟨text⟩, isService := p.isService, username,
            hosts := p.hosts.map String.ofList,
            database := if database = "" then none else some database }) := by
  obtain ⟨hsome, hfew⟩ := p.hasHosts_iff.mp h
  unfold check
  rw [if_neg hsome, if_neg hfew, decodeOptional_nonEmptyChars]
  cases decodeOptional p.user with
  | error e => rfl
  | ok username => cases decode p.database <;> rfl

/-- Without fitting hosts nothing is decoded. -/
theorem check_of_not_hasHosts {p : Parts} (h : ¬p.HasHosts) (text : String) :
    p.hosts = [] ∧ p.check text = .error .noHost ∨
      p.isService = true ∧ 1 < p.hosts.length ∧ p.check text = .error .severalServiceHosts := by
  unfold check
  by_cases hnone : p.hosts = []
  · exact .inl ⟨hnone, if_pos hnone⟩
  · by_cases hmany : p.isService = true ∧ 1 < p.hosts.length
    · exact .inr ⟨hmany.1, hmany.2, by rw [if_neg hnone, if_pos hmany]⟩
    · exact absurd (p.hasHosts_iff.mpr ⟨hnone, hmany⟩) h

theorem check_eq_ok_iff (p : Parts) (text : String) (a : Address) :
    p.check text = .ok a ↔ p.HasHosts ∧ p.Describes text a := by
  by_cases h : p.HasHosts
  · simp only [check_of_hasHosts h, bind_eq_ok_iff, decodeOptional_eq_ok_iff, decode_eq_ok_iff,
      Except.ok.injEq, h, true_and]
    constructor
    · rintro ⟨username, huser, database, hdatabase, rfl⟩
      exact ⟨rfl, rfl, huser, rfl, database, hdatabase, rfl⟩
    · rintro ⟨htext, hservice, huser, hhosts, database, hdatabase, hshown⟩
      refine ⟨a.username, huser, database, hdatabase, ?_⟩
      rw [← htext, ← hservice, ← hhosts, ← hshown]
  · simp only [h, false_and, iff_false]
    rcases check_of_not_hasHosts h text with ⟨-, hcheck⟩ | ⟨-, -, hcheck⟩ <;> simp [hcheck]

theorem check_eq_error_iff (p : Parts) (text : String) (e : AppError) :
    p.check text = .error e ↔ p.Refused e := by
  by_cases h : p.HasHosts
  · simp only [check_of_hasHosts h, bind_eq_error_iff, decodeOptional_eq_error_iff,
      decode_eq_error_iff, decodeOptional_eq_ok_iff, reduceCtorEq, and_false, exists_false, or_false]
    constructor
    · rintro (⟨user, fault, huser, hfault, rfl⟩ | ⟨username, hspells, fault, hfault, rfl⟩)
      · exact .username h huser hfault
      · refine .database h (fun user huser => ?_) hfault
        rw [huser] at hspells
        cases hspells with
        | some hname => exact ⟨_, hname⟩
    · intro hrefused
      cases hrefused with
      | noHost hnone => exact absurd hnone h.some
      | severalHosts hservice hmany =>
        rw [h.single hservice] at hmany
        omega
      | username _ huser hfault => exact .inl ⟨_, _, huser, hfault, rfl⟩
      | database _ huser hfault =>
        right
        cases hp : p.user with
        | none => exact ⟨none, .none, _, hfault, rfl⟩
        | some user =>
          obtain ⟨name, hname⟩ := huser user hp
          exact ⟨some name, .some hname, _, hfault, rfl⟩
  · rcases check_of_not_hasHosts h text with ⟨hnone, hcheck⟩ | ⟨hservice, hmany, hcheck⟩
    · rw [hcheck]
      constructor
      · intro he
        cases he
        exact .noHost hnone
      · intro hrefused
        cases hrefused with
        | noHost _ => rfl
        | severalHosts _ hmany => simp [hnone] at hmany
        | username hhosts _ _ | database hhosts _ _ => exact absurd hhosts h
    · rw [hcheck]
      constructor
      · intro he
        cases he
        exact .severalHosts hservice hmany
      · intro hrefused
        cases hrefused with
        | noHost hnone => simp [hnone] at hmany
        | severalHosts _ _ => rfl
        | username hhosts _ _ | database hhosts _ _ => exact absurd hhosts h

/-- Parts can be shown exactly if user and database are spelled. -/
theorem exists_describes_iff (p : Parts) (text : String) :
    (∃ a, p.Describes text a) ↔
      (∀ user, p.user = some user → ∃ name, Spells user name) ∧
        ∃ database, Spells p.database database := by
  have hrel : (∃ username, Option.Rel Spells p.user username) ↔
      ∀ user, p.user = some user → ∃ name, Spells user name := by
    cases p.user with
    | none => exact ⟨fun _ user h => (nomatch h), fun _ => ⟨none, .none⟩⟩
    | some user =>
      constructor
      · rintro ⟨username, hspells⟩ _ hsame
        cases hsame
        cases hspells with
        | some hname => exact ⟨_, hname⟩
      · intro h
        obtain ⟨name, hname⟩ := h user rfl
        exact ⟨some name, .some hname⟩
  rw [← hrel]
  constructor
  · rintro ⟨a, ha⟩
    obtain ⟨database, hdatabase, -⟩ := ha.database
    exact ⟨⟨a.username, ha.username⟩, database, hdatabase⟩
  · rintro ⟨⟨username, huser⟩, database, hdatabase⟩
    exact ⟨⟨⟨text⟩, p.isService, username, p.hosts.map String.ofList, _⟩, rfl, rfl, huser, rfl,
      database, hdatabase, rfl⟩

/-- Whatever the reason, it is the text that is not valid. -/
theorem Refused.kind_eq {p : Parts} {e : AppError} (h : p.Refused e) : e.kind = .validation := by
  cases h <;> rfl

end Parts

/-! ## The law -/

theorem parse_of_splitScheme {text : String} {isService : Bool} {rest : List Char}
    (h : splitScheme text.toList = some (isService, rest)) :
    parse text = (Parts.ofRest isService rest).check text := by
  unfold parse
  rw [h]
  rfl

/-- A text with parts is accepted or refused for them. -/
theorem parse_of_written {p : Parts} {text : String} (h : p.Written text.toList) :
    parse text = p.check text := by
  obtain ⟨rest, hscheme, hp⟩ := (p.written_iff text.toList).mp h
  rw [parse_of_splitScheme hscheme, ← hp]

/-- A text has parts, or it begins with no scheme. -/
theorem exists_written_or (text : String) :
    (∃ p : Parts, p.Written text.toList) ∨
      (∀ isService, ¬(schemeOf isService).toList <+: text.toList) ∧
        (∀ p : Parts, ¬p.Written text.toList) ∧ parse text = .error .unknownScheme := by
  cases hscheme : splitScheme text.toList with
  | some found => exact .inl ⟨_, Parts.written_ofRest hscheme⟩
  | none =>
    have hnone : ∀ isService rest, text.toList ≠ (schemeOf isService).toList ++ rest := by
      intro isService rest htext
      rw [(splitScheme_eq_some_iff _ _ _).mpr htext] at hscheme
      cases hscheme
    refine .inr ⟨?_, fun p hp => hnone _ _ hp.text, ?_⟩
    · rintro isService ⟨rest, htext⟩
      exact hnone isService rest htext.symm
    · unfold parse
      rw [hscheme]

theorem parse_eq_ok_iff (text : String) (a : Address) :
    parse text = .ok a ↔ ∃ p : Parts, p.Written text.toList ∧ p.HasHosts ∧ p.Describes text a := by
  constructor
  · intro h
    rcases exists_written_or text with ⟨p, hp⟩ | ⟨-, -, herror⟩
    · rw [parse_of_written hp] at h
      exact ⟨p, hp, (p.check_eq_ok_iff text a).mp h⟩
    · rw [herror] at h
      cases h
  · rintro ⟨p, hp, h⟩
    rw [parse_of_written hp]
    exact (p.check_eq_ok_iff text a).mpr h

theorem parse_eq_error_iff (text : String) (e : AppError) :
    parse text = .error e ↔
      (∀ isService, ¬(schemeOf isService).toList <+: text.toList) ∧ e = .unknownScheme ∨
        ∃ p : Parts, p.Written text.toList ∧ p.Refused e := by
  rcases exists_written_or text with ⟨p, hp⟩ | ⟨hscheme, hnone, herror⟩
  · rw [parse_of_written hp, p.check_eq_error_iff]
    constructor
    · intro h
      exact .inr ⟨p, hp, h⟩
    · rintro (⟨hscheme, -⟩ | ⟨q, hq, h⟩)
      · exact absurd ⟨_, hp.text.symm⟩ (hscheme p.isService)
      · have hsame := (parse_of_written hp).symm.trans (parse_of_written hq)
        exact (p.check_eq_error_iff text e).mp (hsame.trans ((q.check_eq_error_iff text e).mpr h))
  · rw [herror]
    constructor
    · intro h
      cases h
      exact .inl ⟨hscheme, rfl⟩
    · rintro (⟨-, rfl⟩ | ⟨p, hp, -⟩)
      · rfl
      · exact absurd hp (hnone p)

/-- The reader accepts exactly the texts of the grammar that have hosts and spell a user and a
database, and it shows what they spell; any other text is not valid, and is refused for the first
part that is wrong. -/
theorem parse_exactly_grammar (text : String) :
    ((∃ a, parse text = .ok a) ↔ ∃ p : Parts, p.Written text.toList ∧ p.HasHosts ∧
      (∀ user, p.user = some user → ∃ name, Spells user name) ∧
      ∃ database, Spells p.database database) ∧
    (∀ a, parse text = .ok a ↔
      ∃ p : Parts, p.Written text.toList ∧ p.HasHosts ∧ p.Describes text a) ∧
    (∀ e, parse text = .error e ↔
      (∀ isService, ¬(schemeOf isService).toList <+: text.toList) ∧ e = .unknownScheme ∨
        ∃ p : Parts, p.Written text.toList ∧ p.Refused e) ∧
    (∀ e, parse text = .error e → e.kind = .validation) ∧
    ∀ a, parse text = .ok a → a.hosts ≠ [] ∧ ∀ host ∈ a.hosts,
      host ≠ "" ∧ ∀ c ∈ host.toList, c ≠ ',' ∧ c ≠ '/' ∧ c ≠ '?' ∧ c ≠ '@' := by
  refine ⟨?_, parse_eq_ok_iff text, parse_eq_error_iff text, ?_, ?_⟩
  · constructor
    · rintro ⟨a, ha⟩
      obtain ⟨p, hp, hhosts, hdescribes⟩ := (parse_eq_ok_iff text a).mp ha
      exact ⟨p, hp, hhosts, (p.exists_describes_iff text).mp ⟨a, hdescribes⟩⟩
    · rintro ⟨p, hp, hhosts, hspells⟩
      obtain ⟨a, hdescribes⟩ := (p.exists_describes_iff text).mpr hspells
      exact ⟨a, (parse_eq_ok_iff text a).mpr ⟨p, hp, hhosts, hdescribes⟩⟩
  · intro e he
    rcases (parse_eq_error_iff text e).mp he with ⟨-, rfl⟩ | ⟨p, -, hrefused⟩
    · rfl
    · exact hrefused.kind_eq
  · intro a ha
    obtain ⟨p, hp, hhosts, hdescribes⟩ := (parse_eq_ok_iff text a).mp ha
    rw [hdescribes.hosts]
    refine ⟨by simpa using hhosts.some, fun host hhost => ?_⟩
    obtain ⟨cs, hcs, rfl⟩ := List.mem_map.mp hhost
    obtain ⟨hne, hplain⟩ := hp.mem_hosts hcs
    rw [String.toList_ofList]
    exact ⟨fun hempty => hne (by simpa using congrArg String.toList hempty), hplain⟩

/-- A text in which every character that separates parts stands where it separates none. -/
def crowdedText : String := "mongodb://us%C3%A9r:p@,w@h1:1,,h2/d%2Fb@?x=/y"

/-- The parts of that text. -/
def crowdedParts : Parts :=
  { isService := false
    authority := "us%C3%A9r:p@,w@h1:1,,h2".toList
    rest := "/d%2Fb@?x=/y".toList
    user := some "us%C3%A9r".toList
    hostList := "h1:1,,h2".toList
    hosts := ["h1:1".toList, "h2".toList]
    database := "d%2Fb@".toList }

theorem parse_exactly_grammar_crowded :
    crowdedParts.Written crowdedText.toList ∧
    parse crowdedText = .ok
      { text := ⟨crowdedText⟩
        isService := false
        username := some "usér"
        hosts := ["h1:1", "h2"]
        database := some "d/b@" } := by
  have hwritten : crowdedParts.Written crowdedText.toList :=
    (crowdedParts.written_iff _).mpr ⟨_, rfl, rfl⟩
  have hhosts : crowdedParts.HasHosts := ⟨by decide, by decide⟩
  refine ⟨hwritten, ?_⟩
  refine ((parse_exactly_grammar crowdedText).2.1 _).mpr ⟨crowdedParts, hwritten, hhosts, ?_⟩
  exact ⟨rfl, rfl, .some rfl, rfl, "d/b@", rfl, rfl⟩

end ClientWiring.Mongo.Address
