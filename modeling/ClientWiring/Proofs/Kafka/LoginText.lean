import ClientWiring.Kafka.Login
import ClientWiring.Proofs.Text.Marks

/-!
# What the classic form of a login tells

In the classic form every option is a name and, between quotes, a value:

    PlainLoginModule required password="secret" username="alice";

Names and values are written as they are.  As long as there is no quote in them, each quote of the text
begins or ends a value, and the options can be read off it               (options_eq_of_unquoted).
But a value with a quote in it can pass for the end of its option and the beginning of the next:

    password  =  secret" username="alice

has the same text.  So a text with two options is always that of one option as well, and it tells the
options only when there is at most one and it can be cut at one place      (classicForm_tells_options).
-/

namespace ClientWiring.Kafka.Login

/-! ## The text of options -/

/-- The characters between the name of an option and its value. -/
def opening : List Char := ['=', '"']

/-- An option with its value between quotes, by characters. -/
def optionChars (p : String × String) : List Char :=
  ' ' :: (p.1.toList ++ '=' :: '"' :: (p.2.toList ++ ['"']))

/-- What stands between the first quote of some options and the last, when the first value and the
further options are these. -/
def between (value : List Char) : List (String × String) → List Char
  | [] => value
  | q :: rest => value ++ '"' :: ' ' :: (q.1.toList ++ '=' :: '"' :: between q.2.toList rest)

/-- No name and no value has a quote in it. -/
def Unquoted (options : SortedMap String) : Prop :=
  ∀ p ∈ options.pairs, '"' ∉ p.1.toList ∧ '"' ∉ p.2.toList

theorem toList_quotedOption (p : String × String) : (quotedOption p).toList = optionChars p := by
  simp [quotedOption, optionChars]

theorem toList_classicForm (l : Login) :
    l.classicForm.toList = l.loginModule.toList ++ ' ' :: l.flag.name.toList ++
      l.options.pairs.flatMap optionChars ++ [';'] := by
  have hjoin : ∀ pairs : List (String × String),
      (String.join (pairs.map quotedOption)).toList = pairs.flatMap optionChars := by
    intro pairs
    rw [String.toList_join, List.flatMap_map]
    simp only [toList_quotedOption]
  simp [classicForm, hjoin]

/-- Texts of one login module and flag are the same if the texts of the options are. -/
theorem classicForm_eq_iff {l l' : Login} (hmodule : l'.loginModule = l.loginModule)
    (hflag : l'.flag = l.flag) :
    l'.classicForm = l.classicForm ↔
      l'.options.pairs.flatMap optionChars = l.options.pairs.flatMap optionChars := by
  rw [← String.toList_inj, toList_classicForm, toList_classicForm, hmodule, hflag,
    List.append_cancel_right_eq, List.append_cancel_left_eq]

/-- Some options begin like one, and end with a quote like one. -/
theorem flatMap_optionChars_cons (p : String × String) (rest : List (String × String)) :
    (p :: rest).flatMap optionChars =
      ' ' :: (p.1.toList ++ '=' :: '"' :: (between p.2.toList rest ++ ['"'])) := by
  induction rest generalizing p with
  | nil => simp [optionChars, between]
  | cons q rest ih =>
    rw [List.flatMap_cons, ih q]
    simp [optionChars, between]

/-! ## Options without quotes -/

theorem pairs_eq_of_unquoted {pairs pairs' : List (String × String)}
    (h : ∀ p ∈ pairs, '"' ∉ p.1.toList ∧ '"' ∉ p.2.toList)
    (h' : ∀ p ∈ pairs', '"' ∉ p.1.toList ∧ '"' ∉ p.2.toList)
    (heq : pairs.flatMap optionChars = pairs'.flatMap optionChars) : pairs = pairs' := by
  induction pairs generalizing pairs' with
  | nil =>
    cases pairs' with
    | nil => rfl
    | cons q rest' => simp [optionChars] at heq
  | cons p rest ih =>
    cases pairs' with
    | nil => simp [optionChars] at heq
    | cons q rest' =>
      obtain ⟨k, v⟩ := p
      obtain ⟨k', v'⟩ := q
      obtain ⟨⟨hk, hv⟩, hrest⟩ := List.forall_mem_cons.mp h
      obtain ⟨⟨hk', hv'⟩, hrest'⟩ := List.forall_mem_cons.mp h'
      have hcut : (k.toList ++ ['=']) ++ '"' :: (v.toList ++ '"' :: rest.flatMap optionChars) =
          (k'.toList ++ ['=']) ++ '"' :: (v'.toList ++ '"' :: rest'.flatMap optionChars) := by
        simpa [optionChars] using heq
      have hname : '"' ∉ k.toList ++ ['='] := by simp [hk]
      have hname' : '"' ∉ k'.toList ++ ['='] := by simp [hk']
      obtain ⟨hkeys, hvalues⟩ := Text.append_mark_inj hname hname' hcut
      obtain ⟨hvalue, hmore⟩ := Text.append_mark_inj hv hv' hvalues
      obtain rfl : k = k' := String.toList_injective (List.append_cancel_right hkeys)
      obtain rfl : v = v' := String.toList_injective hvalue
      rw [ih hrest hrest' hmore]

/-- Without quotes in names and values the text tells the options. -/
theorem options_eq_of_unquoted {l l' : Login} (hmodule : l'.loginModule = l.loginModule)
    (hflag : l'.flag = l.flag) (h : Unquoted l.options) (h' : Unquoted l'.options)
    (htext : l'.classicForm = l.classicForm) : l'.options = l.options :=
  SortedMap.ext_pairs (pairs_eq_of_unquoted h' h ((classicForm_eq_iff hmodule hflag).mp htext))

/-! ## Any options -/

/-- No other options of the same login module and flag have the same text. -/
def Unmistakable (l : Login) : Prop :=
  ∀ l' : Login, l'.loginModule = l.loginModule → l'.flag = l.flag →
    l'.classicForm = l.classicForm → l'.options = l.options

/-- A text is cut in one way when neither part has the characters at which it is cut.  They cannot
overlap, so another place for them lies in one of the parts. -/
theorem opening_inj {k v a b : List Char} (hk : ¬ opening <:+: k) (hv : ¬ opening <:+: v)
    (h : k ++ '=' :: '"' :: v = a ++ '=' :: '"' :: b) : k = a ∧ v = b := by
  rcases List.append_eq_append_iff.mp h with ⟨more, hmore, hrest⟩ | ⟨more, hmore, hrest⟩
  · match more with
    | [] => exact ⟨by simpa using hmore.symm, by simpa using hrest⟩
    | [c] => simp at hrest
    | c :: d :: more =>
      simp only [List.cons_append, List.cons.injEq] at hrest
      exact absurd ⟨more, b, by simp [opening, hrest]⟩ hv
  · match more with
    | [] => exact ⟨by simpa using hmore, by simpa using hrest.symm⟩
    | [c] => simp at hrest
    | c :: d :: more =>
      simp only [List.cons_append, List.cons.injEq] at hrest
      exact absurd ⟨a, more, by simp [opening, hmore, ← hrest.1, ← hrest.2.1]⟩ hk

/-- Further options bring further places to cut at. -/
theorem opening_infix_between (value : List Char) (q : String × String)
    (rest : List (String × String)) : opening <:+: between value (q :: rest) :=
  ⟨value ++ '"' :: ' ' :: q.1.toList, between q.2.toList rest, by simp [between, opening]⟩

/-- A login can be mistaken if its text can be cut elsewhere. -/
theorem not_unmistakable_of_cut {l : Login} (a b : List Char)
    (htext : l.options.pairs.flatMap optionChars = ' ' :: (a ++ '=' :: '"' :: (b ++ ['"'])))
    (hother : l.options.pairs ≠ [(String.ofList a, String.ofList b)]) : ¬ l.Unmistakable := by
  intro h
  let forged : Login :=
    { l with options := SortedMap.empty.insert (String.ofList a) (String.ofList b) }
  have hmodule : forged.loginModule = l.loginModule := rfl
  have hflag : forged.flag = l.flag := rfl
  have hforged : forged.classicForm = l.classicForm := by
    rw [classicForm_eq_iff hmodule hflag, htext]
    show [(String.ofList a, String.ofList b)].flatMap optionChars = _
    simp [optionChars]
  have hoptions : forged.options = l.options := h forged hmodule hflag hforged
  exact hother (congrArg SortedMap.pairs hoptions).symm

/-- At most one option, whose text can be cut at one place only. -/
def CutOnce (options : SortedMap String) : Prop :=
  options.pairs.length ≤ 1 ∧
    ∀ p ∈ options.pairs, ¬ opening <:+: p.1.toList ∧ ¬ opening <:+: p.2.toList

theorem cutOnce_of_unmistakable {l : Login} (h : l.Unmistakable) : CutOnce l.options := by
  unfold CutOnce
  cases hpairs : l.options.pairs with
  | nil => simp
  | cons p rest =>
    obtain ⟨k, v⟩ := p
    have htext := flatMap_optionChars_cons (k, v) rest
    rw [← hpairs] at htext
    have hkey : ∀ a b, l.options.pairs = [(String.ofList a, String.ofList b)] →
        k.toList.length = a.length := by
      intro a b hsame
      rw [hpairs, List.cons.injEq, Prod.mk.injEq] at hsame
      rw [hsame.1.1, String.toList_ofList]
    cases rest with
    | cons q rest =>
      refine absurd h (not_unmistakable_of_cut _ _ htext ?_)
      simp [hpairs]
    | nil =>
      refine ⟨Nat.le_refl 1, List.forall_mem_singleton.mpr ⟨?_, ?_⟩⟩
      · -- The name goes on with what was the value.
        rintro ⟨a, b, hk⟩
        have hlength := congrArg List.length hk
        refine absurd h (not_unmistakable_of_cut a (b ++ '=' :: '"' :: v.toList) ?_ fun hsame => ?_)
        · rw [htext, ← hk]
          simp [between, opening]
        · have hsame := hkey _ _ hsame
          simp [opening] at hlength
          omega
      · -- The value begins later.
        rintro ⟨a, b, hv⟩
        refine absurd h (not_unmistakable_of_cut (k.toList ++ '=' :: '"' :: a) b ?_ fun hsame => ?_)
        · rw [htext]
          simp [between, ← hv, opening]
        · have hsame := hkey _ _ hsame
          simp at hsame

theorem unmistakable_of_cutOnce {l : Login} (h : CutOnce l.options) : l.Unmistakable := by
  intro l' hmodule hflag htext
  rw [classicForm_eq_iff hmodule hflag] at htext
  apply SortedMap.ext_pairs
  obtain ⟨hlength, hcuts⟩ := h
  match hpairs : l.options.pairs, hpairs' : l'.options.pairs with
  | [], [] => rfl
  | [], q :: rest' =>
    rw [hpairs, hpairs', flatMap_optionChars_cons] at htext
    cases htext
  | p :: q :: rest, _ =>
    rw [hpairs] at hlength
    simp at hlength
  | [p], [] =>
    rw [hpairs, hpairs', flatMap_optionChars_cons] at htext
    cases htext
  | [p], q :: rest' =>
    obtain ⟨hname, hvalue⟩ := hcuts p (by rw [hpairs]; exact List.mem_cons_self ..)
    rw [hpairs, hpairs', flatMap_optionChars_cons, flatMap_optionChars_cons] at htext
    have hends : (p.1.toList ++ '=' :: '"' :: p.2.toList) ++ ['"'] =
        (q.1.toList ++ '=' :: '"' :: between q.2.toList rest') ++ ['"'] := by
      simpa [between] using htext.symm
    obtain ⟨hkeys, hvalues⟩ := opening_inj hname hvalue (List.append_cancel_right hends)
    cases rest' with
    | cons r rest' => exact absurd (hvalues ▸ opening_infix_between q.2.toList r rest') hvalue
    | nil =>
      have hk : q.1 = p.1 := String.toList_injective hkeys.symm
      have hv : q.2 = p.2 := String.toList_injective hvalues.symm
      rw [Prod.ext hk hv]

/-- The text tells the options among those without quotes, and among all options only if there is at
most one and its text can be cut at one place. -/
theorem classicForm_tells_options (l : Login) :
    (l.Unmistakable ↔ CutOnce l.options) ∧
      ∀ l' : Login, l'.loginModule = l.loginModule → l'.flag = l.flag → Unquoted l.options →
        Unquoted l'.options → l'.classicForm = l.classicForm → l'.options = l.options :=
  ⟨⟨cutOnce_of_unmistakable, unmistakable_of_cutOnce⟩,
    fun _ hmodule hflag h h' htext => options_eq_of_unquoted hmodule hflag h h' htext⟩

/-- A login by name and password. -/
def aliceLogin : Login :=
  ⟨"PlainLoginModule", .required, .ofList [("password", "secret"), ("username", "alice")]⟩

/-- A login with a password that ends in another option, and without a name. -/
def forgedLogin : Login :=
  ⟨"PlainLoginModule", .required, .ofList [("password", "secret\" username=\"alice")]⟩

/-- One name alone cannot be mistaken, and a name with a password always can. -/
theorem classicForm_tells_options_alice :
    (Login.mk "PlainLoginModule" .required (.ofList [("username", "alice")])).Unmistakable ∧
      ¬ aliceLogin.Unmistakable := by
  constructor
  · refine (classicForm_tells_options _).1.mpr ?_
    unfold CutOnce
    decide +kernel
  · intro h
    have hcut := (classicForm_tells_options aliceLogin).1.mp h
    exact absurd hcut.1 (by decide)

/-- A password with quotes in it passes for two options. -/
theorem forged_password_shows_as_name :
    forgedLogin.loginModule = aliceLogin.loginModule ∧ forgedLogin.flag = aliceLogin.flag ∧
      forgedLogin.classicForm = aliceLogin.classicForm ∧
      forgedLogin.classicForm = "PlainLoginModule required password=\"secret\" username=\"alice\";" ∧
      forgedLogin.options ≠ aliceLogin.options := by
  decide

end ClientWiring.Kafka.Login
