import ClientWiring.Tls.Registry
import Mathlib.Data.Finset.Card

/-!
# What a registry holds after a run of calls

A registry is made from settings, whose bundles are registered in the order of their names, and may then be
called for more.  The first call for a name takes it for good; the later ones for it fail and leave no trace:

    settings    calls                 holds
    a ↦ x       b ↦ y                 a ↦ x, b ↦ y
    a ↦ x       b ↦ y, a ↦ z          a ↦ x, b ↦ y
    a ↦ x       b ↦ y, a ↦ z, b ↦ x   a ↦ x, b ↦ y

So the look-ups after a run are those of the first calls (`KeepsFirst`), by one step (KeepsFirst.enter) and
an induction on the run (KeepsFirst.after), and names, number and emptiness follow from the look-ups
(KeepsFirst.shows).  Settings never repeat a name, so all that can go wrong with them is a private key
without a certificate                                                                 (registerAll_eq).
-/

namespace ClientWiring.Tls.Registry

/-- A call to register a bundle under a name. -/
structure Call where
  name : String
  bundle : Bundle

/-- The registry after a run of calls, each on what the one before has left. -/
def after (r : Registry) : List Call → Registry
  | [] => r
  | c :: rest => (r.enter c.name c.bundle).1.after rest

/-- The calls that settings of bundles stand for. -/
def callsOf (pairs : List (String × PemBundleSettings)) : List Call :=
  pairs.map fun p => ⟨p.1, .ofSettings p.1 p.2⟩

/-- A call is the first of some for its name. -/
def FirstFor (c : Call) (calls : List Call) : Prop :=
  ∃ earlier later, calls = earlier ++ c :: later ∧ ∀ other ∈ earlier, other.name ≠ c.name

/-- Some call is for the name. -/
def Named (name : String) (calls : List Call) : Prop := ∃ c ∈ calls, c.name = name

/-- The bundle of the first call for a name. -/
def firstBundle? (calls : List Call) (name : String) : Option Bundle :=
  (calls.find? fun c => c.name = name).map Call.bundle

/-! ## The first call for a name -/

theorem firstBundle?_eq_some_iff (calls : List Call) (name : String) (bundle : Bundle) :
    firstBundle? calls name = some bundle ↔ FirstFor ⟨name, bundle⟩ calls := by
  unfold firstBundle? FirstFor
  rw [Option.map_eq_some_iff]
  constructor
  · rintro ⟨c, hfirst, rfl⟩
    obtain ⟨hname, earlier, later, hsplit, hearlier⟩ := List.find?_eq_some_iff_append.mp hfirst
    obtain rfl : c.name = name := by simpa using hname
    exact ⟨earlier, later, hsplit, by simpa using hearlier⟩
  · rintro ⟨earlier, later, hsplit, hearlier⟩
    refine ⟨⟨name, bundle⟩, List.find?_eq_some_iff_append.mpr ⟨by simp, ?_⟩, rfl⟩
    exact ⟨earlier, later, hsplit, by simpa using hearlier⟩

theorem exists_firstBundle?_iff (calls : List Call) (name : String) :
    (∃ bundle, firstBundle? calls name = some bundle) ↔ Named name calls := by
  unfold firstBundle? Named
  rw [← Option.isSome_iff_exists, Option.isSome_map, List.find?_isSome]
  simp

theorem firstBundle?_eq_none_iff (calls : List Call) (name : String) :
    firstBundle? calls name = none ↔ ¬ Named name calls := by
  rw [← exists_firstBundle?_iff, ← Option.ne_none_iff_exists', not_not]

/-- A further call counts only for a name that has none so far. -/
theorem firstBundle?_concat (calls : List Call) (c : Call) (name : String) :
    firstBundle? (calls ++ [c]) name =
      (firstBundle? calls name).or (if name = c.name then some c.bundle else none) := by
  unfold firstBundle?
  rw [List.find?_append, Option.map_or]
  by_cases h : name = c.name
  · simp [h]
  · simp [h, Ne.symm h]

/-! ## One call -/

/-- To register a bundle and go on with the new registry is to do so on the spot. -/
theorem register_eq_enter (r : Registry) (name : String) (bundle : Bundle) :
    r.register name bundle =
      (r.enter name bundle).2.map fun () => (r.enter name bundle).1 := by
  unfold register enter
  split <;> rfl

theorem enter_of_new {r : Registry} {name : String} (h : r.bundles.get? name = none)
    (bundle : Bundle) : r.enter name bundle = (⟨r.bundles.insert name bundle⟩, .ok ()) := by
  unfold enter SortedMap.contains
  rw [h]
  rfl

theorem enter_of_taken {r : Registry} {name : String} {held : Bundle}
    (h : r.bundles.get? name = some held) (bundle : Bundle) :
    r.enter name bundle = (r, .error (.bundleRegistered name)) := by
  unfold enter SortedMap.contains
  rw [h]
  rfl

/-- The look-ups of a registry are those of the first calls. -/
def KeepsFirst (r : Registry) (calls : List Call) : Prop :=
  ∀ name, r.bundles.get? name = firstBundle? calls name

theorem KeepsFirst.nil : empty.KeepsFirst [] := fun _ => rfl

theorem KeepsFirst.enter {r : Registry} {calls : List Call} (h : r.KeepsFirst calls) (c : Call) :
    (r.enter c.name c.bundle).1.KeepsFirst (calls ++ [c]) := by
  intro name
  rw [firstBundle?_concat, ← h name]
  cases hheld : r.bundles.get? c.name with
  | none =>
    rw [enter_of_new hheld]
    dsimp only
    rw [SortedMap.get?_insert]
    by_cases hname : name = c.name
    · rw [if_pos hname, if_pos hname, hname, hheld, Option.none_or]
    · rw [if_neg hname, if_neg hname, Option.or_none]
  | some held =>
    rw [enter_of_taken hheld]
    by_cases hname : name = c.name
    · rw [hname, hheld, Option.some_or]
    · rw [if_neg hname, Option.or_none]

/-! ## Runs of calls -/

theorem after_append (r : Registry) (calls more : List Call) :
    r.after (calls ++ more) = (r.after calls).after more := by
  induction calls generalizing r with
  | nil => rfl
  | cons c rest ih => exact ih _

theorem after_concat (r : Registry) (calls : List Call) (c : Call) :
    r.after (calls ++ [c]) = ((r.after calls).enter c.name c.bundle).1 := after_append r calls [c]

/-- By induction on the run; the calls that were made so far grow by one in each step. -/
theorem KeepsFirst.after {r : Registry} {before : List Call} (h : r.KeepsFirst before)
    (calls : List Call) : (r.after calls).KeepsFirst (before ++ calls) := by
  induction calls generalizing r before with
  | nil =>
    rw [List.append_nil]
    exact h
  | cons c rest ih =>
    have hrest := ih (h.enter c)
    rw [List.append_assoc, List.singleton_append] at hrest
    exact hrest

/-! ## What a registry shows -/

/-- What a registry shows of the calls that were made of it. -/
structure Shows (r : Registry) (calls : List Call) : Prop where
  /-- A name has the bundle of the first call for it. -/
  found : ∀ name bundle, r.get name = .ok bundle ↔ FirstFor ⟨name, bundle⟩ calls
  /-- A name that no call was for is not found. -/
  missing : ∀ name e, r.get name = .error e ↔
    ¬ Named name calls ∧ e = .unknownBundle name ∧ e.kind = .notFound
  /-- The names come in ascending order, each once. -/
  ascending : r.names.Pairwise fun a b => a < b
  /-- They are the names of the calls. -/
  listed : ∀ name, name ∈ r.names ↔ Named name calls
  /-- The number of names is that of the different names of the calls. -/
  counted : r.size = (calls.map Call.name).toFinset.card
  /-- There is none before the first call. -/
  vacant : r.isEmpty = true ↔ calls = []
  /-- In whatever order the bundles are kept, sorting their names gives the same names. -/
  unordered : ∀ kept : List (String × Bundle), kept.Perm r.bundles.pairs →
    (kept.map (·.1)).mergeSort (· ≤ ·) = r.names

theorem get_eq_ok_iff (r : Registry) (name : String) (bundle : Bundle) :
    r.get name = .ok bundle ↔ r.bundles.get? name = some bundle := by
  unfold get
  cases r.bundles.get? name <;> simp

theorem get_eq_error_iff (r : Registry) (name : String) (e : AppError) :
    r.get name = .error e ↔
      r.bundles.get? name = none ∧ e = .unknownBundle name ∧ e.kind = .notFound := by
  have hkind : e = .unknownBundle name ∧ e.kind = .notFound ↔ e = .unknownBundle name :=
    and_iff_left_of_imp fun h => by rw [h, AppError.kind]
  rw [hkind]
  unfold get
  cases r.bundles.get? name <;> simp [eq_comm]

theorem mem_names_iff (r : Registry) (name : String) :
    name ∈ r.names ↔ ∃ bundle, r.bundles.get? name = some bundle := r.bundles.mem_keys_iff name

/-- Names that ascend are what sorting makes of any order of them. -/
theorem mergeSort_eq_names {r : Registry} {names : List String} (h : names.Perm r.names) :
    names.mergeSort (· ≤ ·) = r.names := by
  have hsorted : (names.mergeSort (· ≤ ·)).Pairwise fun a b => a ≤ b := by
    have hmerged : (names.mergeSort (· ≤ ·)).Pairwise fun a b => decide (a ≤ b) = true :=
      List.pairwise_mergeSort (by simpa using fun a b c => String.le_trans)
        (by simpa using String.le_total) names
    exact hmerged.imp of_decide_eq_true
  have hascending : r.names.Pairwise fun a b => a ≤ b :=
    r.bundles.ascending_keys.imp Std.le_of_lt
  exact ((List.mergeSort_perm names _).trans h).eq_of_pairwise
    (fun a b _ _ hab hba => String.le_antisymm hab hba) hsorted hascending

theorem KeepsFirst.mem_names_iff {r : Registry} {calls : List Call} (h : r.KeepsFirst calls)
    (name : String) : name ∈ r.names ↔ Named name calls := by
  rw [Registry.mem_names_iff, h name, exists_firstBundle?_iff]

theorem KeepsFirst.size_eq {r : Registry} {calls : List Call} (h : r.KeepsFirst calls) :
    r.size = (calls.map Call.name).toFinset.card := by
  have hsame : (calls.map Call.name).toFinset = r.names.toFinset := by
    ext name
    rw [List.mem_toFinset, List.mem_toFinset, h.mem_names_iff name, List.mem_map, Named]
  rw [hsame, List.toFinset_card_of_nodup (show r.names.Nodup from r.bundles.nodup_keys)]
  exact r.bundles.length_keys.symm

theorem KeepsFirst.isEmpty_iff {r : Registry} {calls : List Call} (h : r.KeepsFirst calls) :
    r.isEmpty = true ↔ calls = [] := by
  have hnames : r.isEmpty = true ↔ r.names = [] := by
    unfold isEmpty SortedMap.isEmpty names SortedMap.keys
    rw [List.isEmpty_iff, List.map_eq_nil_iff]
  rw [hnames, List.eq_nil_iff_forall_not_mem, List.eq_nil_iff_forall_not_mem]
  constructor
  · intro hnone c hc
    exact hnone c.name ((h.mem_names_iff c.name).mpr ⟨c, hc, rfl⟩)
  · intro hnone name hname
    obtain ⟨c, hc, -⟩ := (h.mem_names_iff name).mp hname
    exact hnone c hc

theorem KeepsFirst.shows {r : Registry} {calls : List Call} (h : r.KeepsFirst calls) :
    r.Shows calls where
  found name bundle := by rw [get_eq_ok_iff, h name, firstBundle?_eq_some_iff]
  missing name e := by rw [get_eq_error_iff, h name, firstBundle?_eq_none_iff]
  ascending := r.bundles.ascending_keys
  listed := h.mem_names_iff
  counted := h.size_eq
  vacant := h.isEmpty_iff
  unordered _ hkept := mergeSort_eq_names (hkept.map _)

/-! ## The bundles of settings -/

/-- Settings name a private key and no certificate for it. -/
def KeyAlone (s : PemBundleSettings) : Prop :=
  (∃ path, s.keystore.privateKey = some path) ∧ s.keystore.certificate = none

/-- A name is the smallest under which settings have a private key alone. -/
def FirstKeyAlone (s : TlsSettings) (name : String) : Prop :=
  (∃ pem, s.bundles.get? name = some pem ∧ KeyAlone pem) ∧
    ∀ other pem, s.bundles.get? other = some pem → KeyAlone pem → ¬ other < name

/-- The first name of some pairs whose settings have a private key alone. -/
def firstKeyAlone? (pairs : List (String × PemBundleSettings)) : Option String :=
  (pairs.find? fun p => lacksCertificate p.2).map (·.1)

theorem lacksCertificate_iff (s : PemBundleSettings) : lacksCertificate s = true ↔ KeyAlone s := by
  unfold lacksCertificate KeyAlone
  rw [Bool.and_eq_true, Option.isSome_iff_exists, Option.isNone_iff_eq_none]

theorem firstKeyAlone?_cons_of_keyAlone {p : String × PemBundleSettings} (h : KeyAlone p.2)
    (rest : List (String × PemBundleSettings)) : firstKeyAlone? (p :: rest) = some p.1 := by
  have hlacks := (lacksCertificate_iff p.2).mpr h
  unfold firstKeyAlone?
  rw [List.find?_cons_of_pos (by exact hlacks), Option.map_some]

theorem firstKeyAlone?_cons_of_not_keyAlone {p : String × PemBundleSettings} (h : ¬ KeyAlone p.2)
    (rest : List (String × PemBundleSettings)) :
    firstKeyAlone? (p :: rest) = firstKeyAlone? rest := by
  rw [← lacksCertificate_iff] at h
  unfold firstKeyAlone?
  rw [List.find?_cons_of_neg (by exact h)]

theorem firstKeyAlone?_eq_none_iff (pairs : List (String × PemBundleSettings)) :
    firstKeyAlone? pairs = none ↔ ∀ p ∈ pairs, ¬ KeyAlone p.2 := by
  unfold firstKeyAlone?
  simp only [Option.map_eq_none_iff, List.find?_eq_none, lacksCertificate_iff]

/-- Among ascending names the first one is the smallest. -/
theorem firstKeyAlone?_eq_some_iff {pairs : List (String × PemBundleSettings)}
    (hascending : pairs.Pairwise fun a b => a.1 < b.1) (name : String) :
    firstKeyAlone? pairs = some name ↔
      (∃ pem, (name, pem) ∈ pairs ∧ KeyAlone pem) ∧
        ∀ p ∈ pairs, KeyAlone p.2 → ¬ p.1 < name := by
  induction pairs with
  | nil => simp [firstKeyAlone?]
  | cons p rest ih =>
    obtain ⟨hhead, hrest⟩ := List.pairwise_cons.mp hascending
    by_cases halone : KeyAlone p.2
    · rw [firstKeyAlone?_cons_of_keyAlone halone, Option.some.injEq]
      constructor
      · rintro rfl
        refine ⟨⟨p.2, List.mem_cons_self, halone⟩, fun q hq _ hlt => ?_⟩
        rcases List.mem_cons.mp hq with rfl | hq
        · exact String.lt_irrefl _ hlt
        · exact String.lt_asymm (hhead q hq) hlt
      · rintro ⟨⟨pem, hmem, -⟩, hleast⟩
        rcases List.mem_cons.mp hmem with heq | hmem
        · rw [← heq]
        · exact absurd (hhead _ hmem) (hleast p List.mem_cons_self halone)
    · have hfirst : (∃ pem, (name, pem) ∈ p :: rest ∧ KeyAlone pem) ↔
          ∃ pem, (name, pem) ∈ rest ∧ KeyAlone pem := by
        refine exists_congr fun pem => ?_
        rw [List.mem_cons, or_and_right, or_iff_right]
        rintro ⟨rfl, hkey⟩
        exact halone hkey
      rw [firstKeyAlone?_cons_of_not_keyAlone halone, ih hrest, hfirst, List.forall_mem_cons,
        and_iff_right (a := KeyAlone p.2 → ¬ p.1 < name) fun hkey => absurd hkey halone]

theorem firstKeyAlone?_bundles_eq_some_iff (s : TlsSettings) (name : String) :
    firstKeyAlone? s.bundles.pairs = some name ↔ FirstKeyAlone s name := by
  rw [firstKeyAlone?_eq_some_iff s.bundles.ascending]
  unfold FirstKeyAlone
  simp only [Prod.forall, SortedMap.mem_pairs_iff]

/-- Pairs whose names ascend and are new to the registry are all registered, or the first key without a
certificate among them stops it.  By induction on the pairs: what one of them registers is no name of the
rest. -/
theorem registerAll_eq {r : Registry} {pairs : List (String × PemBundleSettings)}
    (hnew : ∀ p ∈ pairs, r.bundles.get? p.1 = none)
    (hascending : pairs.Pairwise fun a b => a.1 < b.1) :
    r.registerAll pairs =
      (firstKeyAlone? pairs).elim (.ok (r.after (callsOf pairs)))
        fun name => .error (.keyWithoutCertificate name) := by
  induction pairs generalizing r with
  | nil => rfl
  | cons p rest ih =>
    obtain ⟨name, pem⟩ := p
    obtain ⟨hhead, hrest⟩ := List.pairwise_cons.mp hascending
    rw [registerAll]
    by_cases halone : KeyAlone pem
    · rw [if_pos ((lacksCertificate_iff pem).mpr halone), firstKeyAlone?_cons_of_keyAlone halone]
      rfl
    · have henter : r.enter name (.ofSettings name pem) =
          (⟨r.bundles.insert name (.ofSettings name pem)⟩, .ok ()) :=
        enter_of_new (hnew (name, pem) List.mem_cons_self) _
      have hlater : ∀ p ∈ rest,
          (r.bundles.insert name (.ofSettings name pem)).get? p.1 = none := by
        intro p hp
        have hne : p.1 ≠ name := fun e => String.lt_irrefl name (e ▸ hhead p hp)
        rw [SortedMap.get?_insert, if_neg hne]
        exact hnew p (List.mem_cons_of_mem _ hp)
      rw [if_neg (by rwa [lacksCertificate_iff]), firstKeyAlone?_cons_of_not_keyAlone halone,
        register_eq_enter, henter]
      dsimp only [Except.map]
      rw [ih (r := ⟨r.bundles.insert name (.ofSettings name pem)⟩) hlater hrest,
        callsOf, callsOf, List.map_cons, after, henter]

/-- A registry without bundles takes any part of a map. -/
theorem registerAll_empty {pairs : List (String × PemBundleSettings)}
    (hascending : pairs.Pairwise fun a b => a.1 < b.1) :
    empty.registerAll pairs =
      (firstKeyAlone? pairs).elim (.ok (empty.after (callsOf pairs)))
        fun name => .error (.keyWithoutCertificate name) :=
  registerAll_eq (fun _ _ => rfl) hascending

theorem keepsFirst_of_registerAll {pairs : List (String × PemBundleSettings)} {r : Registry}
    (hascending : pairs.Pairwise fun a b => a.1 < b.1) (h : empty.registerAll pairs = .ok r) :
    r.KeepsFirst (callsOf pairs) := by
  rw [registerAll_empty hascending] at h
  cases hfirst : firstKeyAlone? pairs with
  | none =>
    rw [hfirst] at h
    cases h
    exact KeepsFirst.nil.after _
  | some name =>
    rw [hfirst] at h
    cases h

/-- Settings are at fault for the smallest name with a private key alone, and for nothing else. -/
theorem ofSettings_eq_error_iff (s : TlsSettings) (e : AppError) :
    ofSettings s = .error e ↔ ∃ name, FirstKeyAlone s name ∧ e = .keyWithoutCertificate name := by
  simp only [← firstKeyAlone?_bundles_eq_some_iff]
  unfold ofSettings
  rw [registerAll_empty s.bundles.ascending]
  cases firstKeyAlone? s.bundles.pairs with
  | none => simp
  | some name => simp [eq_comm]

theorem exists_ofSettings_iff (s : TlsSettings) :
    (∃ r, ofSettings s = .ok r) ↔ ∀ name pem, s.bundles.get? name = some pem → ¬ KeyAlone pem := by
  have hnone := firstKeyAlone?_eq_none_iff s.bundles.pairs
  simp only [Prod.forall, SortedMap.mem_pairs_iff] at hnone
  rw [← hnone]
  unfold ofSettings
  rw [registerAll_empty s.bundles.ascending]
  cases firstKeyAlone? s.bundles.pairs <;> simp

/-- The name of a bundle in settings is new to what the bundles before it have made. -/
theorem enter_of_registerAll {s : TlsSettings} {earlier later : List (String × PemBundleSettings)}
    {name : String} {pem : PemBundleSettings} {r : Registry}
    (hsplit : s.bundles.pairs = earlier ++ (name, pem) :: later)
    (h : empty.registerAll earlier = .ok r) (bundle : Bundle) :
    (r.enter name bundle).2 = .ok () := by
  have hascending := s.bundles.ascending
  rw [hsplit, List.pairwise_append] at hascending
  obtain ⟨hearlier, -, hbelow⟩ := hascending
  have hunnamed : ¬ Named name (callsOf earlier) := by
    rintro ⟨c, hc, hname⟩
    obtain ⟨p, hp, rfl⟩ := List.mem_map.mp hc
    have hlt : p.1 < name := hbelow p hp (name, pem) List.mem_cons_self
    exact String.lt_irrefl name (hname ▸ hlt)
  have hnew : r.bundles.get? name = none := by
    rw [keepsFirst_of_registerAll hearlier h name, firstBundle?_eq_none_iff]
    exact hunnamed
  rw [enter_of_new hnew]

/-! ## The whole history of a registry -/

theorem enter_succeeds_iff (r : Registry) (c : Call) :
    (r.enter c.name c.bundle).2 = .ok () ↔ c.name ∉ r.names := by
  rw [mem_names_iff]
  cases hheld : r.bundles.get? c.name with
  | none => simp [enter_of_new hheld]
  | some held => simp [enter_of_taken hheld]

theorem enter_fails_iff (r : Registry) (c : Call) (e : AppError) :
    (r.enter c.name c.bundle).2 = .error e ↔
      c.name ∈ r.names ∧ e = .bundleRegistered c.name := by
  rw [mem_names_iff]
  cases hheld : r.bundles.get? c.name with
  | none => simp [enter_of_new hheld]
  | some held => simp [enter_of_taken hheld, eq_comm]

theorem enter_of_fails {r : Registry} {c : Call} {e : AppError}
    (h : (r.enter c.name c.bundle).2 = .error e) : (r.enter c.name c.bundle).1 = r := by
  obtain ⟨hnamed, -⟩ := (enter_fails_iff r c e).mp h
  obtain ⟨held, hheld⟩ := (mem_names_iff r c.name).mp hnamed
  rw [enter_of_taken hheld]

theorem FirstFor.append {c : Call} {calls : List Call} (h : FirstFor c calls) (more : List Call) :
    FirstFor c (calls ++ more) := by
  obtain ⟨earlier, later, rfl, hearlier⟩ := h
  exact ⟨earlier, later ++ more, by simp, hearlier⟩

/-- What is true of a registry through all calls, when it was made with the first ones. -/
structure Lasting (r : Registry) (first : List Call) : Prop where
  /-- A call succeeds if its name is not there yet. -/
  succeeds : ∀ (earlier : List Call) (c : Call),
    ((r.after earlier).enter c.name c.bundle).2 = .ok () ↔ c.name ∉ (r.after earlier).names
  /-- Otherwise it fails for its name. -/
  fails : ∀ (earlier : List Call) (c : Call) (e : AppError),
    ((r.after earlier).enter c.name c.bundle).2 = .error e ↔
      c.name ∈ (r.after earlier).names ∧ e = .bundleRegistered c.name
  /-- A failed call changes nothing. -/
  spared : ∀ (earlier : List Call) (c : Call) (e : AppError),
    ((r.after earlier).enter c.name c.bundle).2 = .error e →
      r.after (earlier ++ [c]) = r.after earlier
  /-- A name keeps its bundle through all later calls. -/
  kept : ∀ (earlier later : List Call) (name : String) (bundle : Bundle),
    (r.after earlier).get name = .ok bundle → (r.after (earlier ++ later)).get name = .ok bundle
  /-- What the registry shows is told by the first calls for each name. -/
  shows : ∀ calls, (r.after calls).Shows (first ++ calls)

theorem KeepsFirst.lasting {r : Registry} {first : List Call} (h : r.KeepsFirst first) :
    r.Lasting first where
  succeeds earlier := enter_succeeds_iff (r.after earlier)
  fails earlier := enter_fails_iff (r.after earlier)
  spared earlier c e hfails := by rw [after_concat, enter_of_fails hfails]
  kept earlier later name bundle hget := by
    rw [(h.after earlier).shows.found] at hget
    rw [(h.after (earlier ++ later)).shows.found, ← List.append_assoc]
    exact hget.append later
  shows calls := (h.after calls).shows

/-- A registry is made of settings unless a bundle has a private key alone, and never because a name
comes twice; from then on each name has the bundle of the first call for it. -/
theorem registers_for_good (s : TlsSettings) :
    ((∃ r, ofSettings s = .ok r) ↔
      ∀ name pem, s.bundles.get? name = some pem → ¬ KeyAlone pem) ∧
    (∀ e, ofSettings s = .error e ↔
      ∃ name, FirstKeyAlone s name ∧ e = .keyWithoutCertificate name) ∧
    (∀ earlier name pem later r bundle, s.bundles.pairs = earlier ++ (name, pem) :: later →
      empty.registerAll earlier = .ok r → (r.enter name bundle).2 = .ok ()) ∧
    ∀ r, ofSettings s = .ok r → r.Lasting (callsOf s.bundles.pairs) := by
  refine ⟨exists_ofSettings_iff s, ofSettings_eq_error_iff s, ?_, ?_⟩
  · intro earlier name pem later r bundle hsplit hmade
    exact enter_of_registerAll hsplit hmade bundle
  · intro r hmade
    exact (keepsFirst_of_registerAll s.bundles.ascending hmade).lasting

/-- The second call for a name leaves it the bundle of the first. -/
example :
    let call (protocol : String) : Call := ⟨"client", { Bundle.systemDefault with protocol }⟩
    (empty.after [call "TLSv1.2", call "TLSv1.3"]).bundles.get? "client" =
      some (call "TLSv1.2").bundle := by
  decide +kernel

end ClientWiring.Tls.Registry
