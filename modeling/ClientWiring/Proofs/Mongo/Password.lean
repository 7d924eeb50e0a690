import ClientWiring.Proofs.Mongo.Grammar

/-!
# A connection string does not show its password

User and password before an `@` change two parts of what follows: the authority becomes longer, and
the user is the one that is written.  Only the user is looked at afterwards, so apart from the text
that is kept, the answer is a function of scheme, user and tail:

    (parse (withPassword isService user password tail)).map blanked =
      ({ ofRest isService tail with user }.check "").map blanked            (parse_withPassword)

Hence two strings that differ only in their passwords are read alike        (parse_hides_password).
The password may have every character but `/` and `?`, which end the authority.
-/

namespace ClientWiring.Mongo.Address

/-- A connection string with a user, a password, and anything after the `@`. -/
def withPassword (isService : Bool) (user password tail : String) : String :=
  schemeOf isService ++ user ++ ":" ++ password ++ "@" ++ tail

/-- A connection string without its text, which is never shown. -/
def blanked (a : Address) : Address := { a with text := ⟨""⟩ }

theorem inspect_blanked (a : Address) : inspect a.blanked = inspect a := rfl

theorem blanked_eq_iff (a b : Address) :
    a.blanked = b.blanked ↔ a.isService = b.isService ∧ a.username = b.username ∧
      a.hosts = b.hosts ∧ a.database = b.database := by
  simp [blanked]

namespace Parts

theorem user_credentials {user : List Char} (hcolon : ':' ∉ user) (password cs : List Char) :
    (userInfo (user ++ ':' :: password ++ '@' :: cs)).map userPart = some user := by
  obtain ⟨more, hinfo⟩ := exists_userInfo cs
  rw [hinfo, Option.map_some, List.append_assoc, List.cons_append, userPart_append hcolon]

/-- User and password change authority and user of the parts of a tail. -/
theorem ofRest_credentials (isService : Bool) {user password : List Char} (hcolon : ':' ∉ user)
    (hin : ∀ c ∈ user ++ ':' :: password, inAuthority c = true) (tail : List Char) :
    ofRest isService (user ++ ':' :: password ++ '@' :: tail) =
      { ofRest isService tail with
        authority := user ++ ':' :: password ++ '@' :: Address.authority tail
        user := some user } := by
  have hauthority : Address.authority (user ++ ':' :: password ++ '@' :: tail) =
      user ++ ':' :: password ++ '@' :: Address.authority tail := by
    unfold Address.authority
    rw [List.takeWhile_append_of_pos hin, List.takeWhile_cons_of_pos rfl]
  have hrest : (user ++ ':' :: password ++ '@' :: tail).dropWhile inAuthority =
      tail.dropWhile inAuthority := by
    rw [List.dropWhile_append_of_pos hin, List.dropWhile_cons_of_pos rfl]
  have hpath : path (user ++ ':' :: password ++ '@' :: tail) = path tail := by
    unfold path
    rw [hrest]
  unfold ofRest
  rw [hauthority, hrest, hpath, hostList_info, user_credentials hcolon]

/-- The checks do not look at the authority, and keep the text as it is. -/
theorem blanked_check (p : Parts) (authority : List Char) (text text' : String) :
    ({ p with authority }.check text).map blanked = (p.check text').map blanked := by
  unfold check
  by_cases hnone : p.hosts = []
  · rw [if_pos hnone, if_pos hnone]
  · by_cases hmany : p.isService = true ∧ 1 < p.hosts.length
    · rw [if_neg hnone, if_neg hnone, if_pos hmany, if_pos hmany]
    · rw [if_neg hnone, if_neg hnone, if_neg hmany, if_neg hmany]
      cases decodeOptional p.user with
      | error e => rfl
      | ok username => cases decodeOptional (nonEmptyChars p.database) <;> rfl

end Parts

/-- But for its text, what is read does not depend on the password. -/
theorem parse_withPassword (isService : Bool) {user password : String} (tail : String)
    (huser : ∀ c ∈ user.toList, c ≠ ':' ∧ c ≠ '/' ∧ c ≠ '?')
    (hpassword : ∀ c ∈ password.toList, c ≠ '/' ∧ c ≠ '?') :
    (parse (withPassword isService user password tail)).map blanked =
      ({ Parts.ofRest isService tail.toList with user := some user.toList }.check "").map
        blanked := by
  have hcolon : ':' ∉ user.toList := fun h => (huser ':' h).1 rfl
  have hin : ∀ c ∈ user.toList ++ ':' :: password.toList, inAuthority c = true := by
    intro c hc
    rw [inAuthority_iff]
    rcases List.mem_append.mp hc with hc | hc
    · exact (huser c hc).2
    · rcases List.mem_cons.mp hc with rfl | hc
      · decide
      · exact hpassword c hc
  have htext : (withPassword isService user password tail).toList = (schemeOf isService).toList ++
      (user.toList ++ ':' :: password.toList ++ '@' :: tail.toList) := by
    simp [withPassword]
  rw [parse_of_splitScheme ((splitScheme_eq_some_iff _ _ _).mpr htext),
    Parts.ofRest_credentials isService hcolon hin]
  exact Parts.blanked_check { Parts.ofRest isService tail.toList with user := some user.toList }
    _ _ _

/-- Two connection strings that differ only in their passwords fail with the same error, or they show
the same parts and look the same. -/
theorem parse_hides_password (isService : Bool) (user password password' tail : String)
    (huser : ∀ c ∈ user.toList, c ≠ ':' ∧ c ≠ '/' ∧ c ≠ '?')
    (hpassword : ∀ c ∈ password.toList, c ≠ '/' ∧ c ≠ '?')
    (hpassword' : ∀ c ∈ password'.toList, c ≠ '/' ∧ c ≠ '?') :
    (∃ e, parse (withPassword isService user password tail) = .error e ∧
      parse (withPassword isService user password' tail) = .error e) ∨
    ∃ a b, parse (withPassword isService user password tail) = .ok a ∧
      parse (withPassword isService user password' tail) = .ok b ∧
      a.isService = b.isService ∧ a.username = b.username ∧ a.hosts = b.hosts ∧
      a.database = b.database ∧ inspect a = inspect b := by
  have hsame : (parse (withPassword isService user password tail)).map blanked =
      (parse (withPassword isService user password' tail)).map blanked := by
    rw [parse_withPassword isService tail huser hpassword,
      parse_withPassword isService tail huser hpassword']
  rcases eq_error_or_eq_ok_of_map_eq hsame with hfail | ⟨a, b, ha, hb, h⟩
  · exact .inl hfail
  · obtain ⟨hservice, husername, hhosts, hdatabase⟩ := (blanked_eq_iff a b).mp h
    refine .inr ⟨a, b, ha, hb, hservice, husername, hhosts, hdatabase, ?_⟩
    rw [← inspect_blanked a, h, inspect_blanked]

/-- One of the passwords is empty; the other one has characters at which parts are cut elsewhere, and
escapes that spell nothing. -/
theorem parse_hides_password_crowded :
    ∃ a b, parse (withPassword false "u@v" "p:@,w@%ZZ%FF" "x@h1,,h2/db@?o=1") = .ok a ∧
      parse (withPassword false "u@v" "" "x@h1,,h2/db@?o=1") = .ok b ∧
      a.username = some "u@v" ∧ a.hosts = ["h1", "h2"] ∧ a.database = some "db@" ∧
      inspect a = inspect b := by
  have hread : parse (withPassword false "u@v" "" "x@h1,,h2/db@?o=1") =
      .ok { text := ⟨"mongodb://u@v:@x@h1,,h2/db@?o=1"⟩
            isService := false
            username := some "u@v"
            hosts := ["h1", "h2"]
            database := some "db@" } := rfl
  rcases parse_hides_password false "u@v" "p:@,w@%ZZ%FF" "" "x@h1,,h2/db@?o=1" (by simp) (by simp)
    (by simp) with ⟨e, -, herror⟩ | ⟨a, b, ha, hb, -, husername, hhosts, hdatabase, hlook⟩
  · rw [hread] at herror
    cases herror
  · obtain rfl := Except.ok.inj (hread.symm.trans hb)
    exact ⟨a, _, ha, hb, husername, hhosts, hdatabase, hlook⟩

/-- A slash ends the authority; what stands before it in a password is taken for a host. -/
example : (parse (withPassword false "u" "pass/word" "h")).map (·.hosts) = .ok ["u:pass"] := rfl

end ClientWiring.Mongo.Address
