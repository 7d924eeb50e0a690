import ClientWiring.Mongo.Address
import ClientWiring.Proofs.Text.Marks

/-!
# Where a connection string is cut

The reader cuts a text at the first `/` or `?`, at the last `@`, at the first `:`, at commas and at
the next `?`.  Each cut undoes putting two parts together around the character, as long as the part
that is searched does not have it:

    authority (auth ++ tail) = auth              tail is empty or starts with `/` or `?`
    hostList (info ++ '@' :: hosts) = hosts      no `@` in the hosts
    splitHosts (xs ++ ',' :: ys) = splitHosts xs ++ splitHosts ys
-/

namespace ClientWiring.Mongo

section Spans

variable {α : Type} {p : α → Bool} {xs rest : List α}

theorem takeWhile_append_of_stop (hin : ∀ x ∈ xs, p x = true)
    (hstop : ∀ x, rest.head? = some x → p x = false) : (xs ++ rest).takeWhile p = xs := by
  rw [List.takeWhile_append_of_pos hin]
  cases rest with
  | nil => simp
  | cons x tail => rw [List.takeWhile_cons_of_neg (by simp [hstop x rfl]), List.append_nil]

theorem dropWhile_append_of_stop (hin : ∀ x ∈ xs, p x = true)
    (hstop : ∀ x, rest.head? = some x → p x = false) : (xs ++ rest).dropWhile p = rest := by
  rw [List.dropWhile_append_of_pos hin]
  cases rest with
  | nil => rfl
  | cons x tail => rw [List.dropWhile_cons_of_neg (by simp [hstop x rfl])]

/-- There is just one place at which a row can be cut where the members of a class end. -/
theorem cut_iff (p : α → Bool) (xs front rest : List α) :
    (xs = front ++ rest ∧ (∀ x ∈ front, p x = true) ∧ ∀ x, rest.head? = some x → p x = false) ↔
      front = xs.takeWhile p ∧ rest = xs.dropWhile p := by
  constructor
  · rintro ⟨rfl, hin, hstop⟩
    exact ⟨(takeWhile_append_of_stop hin hstop).symm, (dropWhile_append_of_stop hin hstop).symm⟩
  · rintro ⟨rfl, rfl⟩
    refine ⟨List.takeWhile_append_dropWhile.symm, List.all_eq_true.mp List.all_takeWhile, ?_⟩
    intro x hx
    have hnot := List.head?_dropWhile_not p xs
    rw [hx] at hnot
    exact hnot

end Spans

/-- A text is cut in just one way at the first of a character. -/
theorem cut_at_iff (mark : Char) (cs front rest : List Char) :
    (cs = front ++ rest ∧ mark ∉ front ∧ ∀ c, rest.head? = some c → c = mark) ↔
      front = cs.takeWhile (· != mark) ∧ rest = cs.dropWhile (· != mark) := by
  have hin : mark ∉ front ↔ ∀ c ∈ front, (c != mark) = true := by
    simp only [bne_iff_ne]
    exact ⟨fun h c hc e => h (e ▸ hc), fun h hmark => h mark hmark rfl⟩
  have hstop : (∀ c, rest.head? = some c → c = mark) ↔
      ∀ c, rest.head? = some c → (c != mark) = false := by
    simp only [bne_eq_false_iff_eq]
  rw [hin, hstop]
  exact cut_iff _ cs front rest

namespace Address

/-! ## Scheme -/

theorem afterStart?_append (start rest : List Char) :
    afterStart? start (start ++ rest) = some rest := by
  have hprefix : start.isPrefixOf (start ++ rest) = true :=
    List.isPrefixOf_iff_prefix.mpr (List.prefix_append start rest)
  unfold afterStart?
  rw [if_pos hprefix, List.drop_left]

theorem splitScheme_scheme (rest : List Char) :
    splitScheme (scheme.toList ++ rest) = some (false, rest) := by
  have hservice : afterStart? serviceScheme.toList (scheme.toList ++ rest) = none := rfl
  unfold splitScheme
  rw [hservice, afterStart?_append]
  rfl

/-! ## Authority and path -/

theorem inAuthority_iff (c : Char) : inAuthority c = true ↔ c ≠ '/' ∧ c ≠ '?' := by
  simp [inAuthority]

theorem authority_append {auth tail : List Char} (hin : ∀ c ∈ auth, inAuthority c = true)
    (hstop : ∀ c, tail.head? = some c → inAuthority c = false) :
    authority (auth ++ tail) = auth := takeWhile_append_of_stop hin hstop

theorem path_append_slash {auth : List Char} (hin : ∀ c ∈ auth, inAuthority c = true)
    (tail : List Char) : path (auth ++ '/' :: tail) = tail := by
  have hdrop : (auth ++ '/' :: tail).dropWhile inAuthority = '/' :: tail := by
    refine dropWhile_append_of_stop hin fun c hc => ?_
    cases hc
    rfl
  unfold path
  rw [hdrop]
  rfl

theorem databasePart_append {database tail : List Char} (hin : '?' ∉ database)
    (hstop : ∀ c, tail.head? = some c → c = '?') : databasePart (database ++ tail) = database := by
  refine takeWhile_append_of_stop (fun c hc => ?_) (fun c hc => ?_)
  · have hne : c ≠ '?' := fun e => hin (e ▸ hc)
    simp [hne]
  · simp [hstop c hc]

/-! ## User and hosts -/

/-- Both parts are read from the end, up to the last `@`. -/
theorem bne_of_mem_reverse {cs : List Char} (h : '@' ∉ cs) :
    ∀ c ∈ cs.reverse, (c != '@') = true := by
  intro c hc
  have hne : c ≠ '@' := by
    rintro rfl
    exact h (List.mem_reverse.mp hc)
  simp [hne]

theorem hostList_of_not_mem {auth : List Char} (h : '@' ∉ auth) : hostList auth = auth := by
  have hin := bne_of_mem_reverse h
  have htake : (auth.reverse ++ []).takeWhile (· != '@') = auth.reverse :=
    takeWhile_append_of_stop hin (by simp)
  unfold hostList
  rw [List.append_nil] at htake
  rw [htake, List.reverse_reverse]

theorem userInfo_of_not_mem {auth : List Char} (h : '@' ∉ auth) : userInfo auth = none := by
  have hin := bne_of_mem_reverse h
  have hdrop : (auth.reverse ++ []).dropWhile (· != '@') = [] :=
    dropWhile_append_of_stop hin (by simp)
  unfold userInfo
  rw [List.append_nil] at hdrop
  rw [hdrop]

/-- Read from the end, an authority with a user is its hosts, then `@`, then the user. -/
theorem reverse_info (info hosts : List Char) :
    (info ++ '@' :: hosts).reverse = hosts.reverse ++ '@' :: info.reverse := by
  simp

theorem hostList_of_info (info : List Char) {hosts : List Char} (h : '@' ∉ hosts) :
    hostList (info ++ '@' :: hosts) = hosts := by
  unfold hostList
  rw [reverse_info, takeWhile_append_of_stop, List.reverse_reverse]
  · exact bne_of_mem_reverse h
  · intro c hc
    cases hc
    rfl

theorem userInfo_of_info (info : List Char) {hosts : List Char} (h : '@' ∉ hosts) :
    userInfo (info ++ '@' :: hosts) = some info := by
  unfold userInfo
  rw [reverse_info, dropWhile_append_of_stop]
  · simp
  · exact bne_of_mem_reverse h
  · intro c hc
    cases hc
    rfl

/-- Further characters before an `@` do not change the hosts. -/
theorem hostList_info (info cs : List Char) : hostList (info ++ '@' :: cs) = hostList cs := by
  by_cases h : '@' ∈ cs
  · obtain ⟨front, hosts, rfl, hhosts⟩ := Text.exists_last_mark h
    rw [hostList_of_info front hhosts, ← List.cons_append, ← List.append_assoc,
      hostList_of_info _ hhosts]
  · rw [hostList_of_info info h, hostList_of_not_mem h]

/-- What stands before an `@` begins the part of the user. -/
theorem exists_userInfo (cs : List Char) :
    ∃ more, ∀ info, userInfo (info ++ '@' :: cs) = some (info ++ more) := by
  by_cases h : '@' ∈ cs
  · obtain ⟨front, hosts, rfl, hhosts⟩ := Text.exists_last_mark h
    refine ⟨'@' :: front, fun info => ?_⟩
    rw [← List.cons_append, ← List.append_assoc, userInfo_of_info _ hhosts]
  · refine ⟨[], fun info => ?_⟩
    rw [userInfo_of_info info h, List.append_nil]

theorem userPart_append {user : List Char} (h : ':' ∉ user) (rest : List Char) :
    userPart (user ++ ':' :: rest) = user := by
  refine takeWhile_append_of_stop (fun c hc => ?_) (fun c hc => ?_)
  · have hne : c ≠ ':' := fun e => h (e ▸ hc)
    simp [hne]
  · cases hc
    rfl

/-! ## Commas -/

theorem splitHosts_append (xs ys : List Char) :
    splitHosts (xs ++ ',' :: ys) = splitHosts xs ++ splitHosts ys := by
  unfold splitHosts
  rw [List.splitOn_append_cons_self, List.filter_append]

theorem splitHosts_flatMap (first : List Char) (more : List (List Char)) :
    splitHosts (first ++ more.flatMap (',' :: ·)) = splitHosts first ++ more.flatMap splitHosts := by
  induction more generalizing first with
  | nil => simp
  | cons host more ih =>
    rw [List.flatMap_cons, List.cons_append, splitHosts_append, ih, List.flatMap_cons]

/-- Whatever is not a comma belongs to some host. -/
theorem splitHosts_ne_nil {c : Char} {xs : List Char} (hc : c ∈ xs) (hne : c ≠ ',') :
    splitHosts xs ≠ [] := by
  induction xs with
  | nil => cases hc
  | cons x rest ih =>
    unfold splitHosts
    rw [List.splitOn_cons_eq_if_modifyHead]
    by_cases hx : x = ','
    · subst hx
      have hrest : c ∈ rest := by
        rcases List.mem_cons.mp hc with rfl | h
        · exact absurd rfl hne
        · exact h
      simpa [splitHosts] using ih hrest
    · obtain ⟨piece, pieces, hsplit⟩ :=
        List.exists_cons_of_ne_nil (List.splitOn_ne_nil ',' rest)
      simp [hx, hsplit]

/-! ## Decoding -/

theorem decodeOptional_of_decode {cs : List Char} {s : String}
    (h : Text.Percent.decode cs = .ok s) : decodeOptional (some cs) = .ok (some s) := by
  simp [decodeOptional, decode, h]

end Address

end ClientWiring.Mongo
