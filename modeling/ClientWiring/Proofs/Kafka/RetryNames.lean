import ClientWiring.Proofs.Kafka.RetryChain
import ClientWiring.Proofs.Text.Digits
import Mathlib.Data.List.Nodup

/-!
# Names of retry topics

A topic of a chain is named by the main topic with a tail behind it: `-retry`, `-retry-` with a
decimal number, or `-dlt`.  Different tails end in different characters, unless both are numbered,
and then their numbers start behind the same dash.  So main topic and tail can be read off a name:

    m ++ t.text = n ++ u.text ↔ m = n ∧ t = u                              (append_text_eq_iff)

Hence chains of different topics have no name in common, whatever their topics are called
(mainTopic_eq_of_mem_names), and the names of a chain are as distinct as its tails.  Those are the
same only where retry topics are named for pauses that are the same in whole milliseconds
(nodup_names_iff).
-/

namespace ClientWiring.Kafka

/-- What stands behind the main topic in the name of a topic of a chain. -/
inductive NameTail where
  | single
  | numbered (n : Nat)
  | deadLetter
deriving DecidableEq, Repr

namespace NameTail

/-- The text of a tail. -/
def text : NameTail → String
  | single => "-retry"
  | numbered n => "-retry-" ++ n.repr
  | deadLetter => "-dlt"

/-! ## A name tells its main topic and its tail -/

/-- Whether a tail of this form can end in the character. -/
def EndsIn : NameTail → Char → Prop
  | single, c => c = 'y'
  | numbered _, c => c.isDigit = true
  | deadLetter, c => c = 't'

/-- The end of a name tells the form of its tail. -/
theorem exists_endsIn (m : String) (t : NameTail) :
    ∃ c, (m ++ t.text).toList.getLast? = some c ∧ t.EndsIn c := by
  cases t with
  | single => exact ⟨'y', by rw [String.toList_append]; simp [text], rfl⟩
  | numbered n =>
    obtain ⟨c, hlast, hdigit⟩ := Text.Digits.getLast?_append_repr (m ++ "-retry-") n
    rw [String.append_assoc] at hlast
    exact ⟨c, hlast, hdigit⟩
  | deadLetter => exact ⟨'t', by rw [String.toList_append]; simp [text], rfl⟩

theorem endsInMark_start (m : String) : Text.Digits.EndsInMark (m ++ "-retry-") :=
  Text.Digits.endsInMark_append m ⟨'-', by decide, by decide⟩

theorem append_text_eq_iff (m n : String) (t u : NameTail) :
    m ++ t.text = n ++ u.text ↔ m = n ∧ t = u := by
  constructor
  · intro h
    obtain ⟨c, hc, ht⟩ := exists_endsIn m t
    obtain ⟨d, hd, hu⟩ := exists_endsIn n u
    rw [h, hd] at hc
    obtain rfl := Option.some.inj hc
    have hcancel : ∀ tail : String, m ++ tail = n ++ tail → m = n := fun tail =>
      (String.append_left_inj tail).mp
    -- tails of different forms do not end in the same character
    cases t <;> cases u <;> simp only [EndsIn] at ht hu
    case single.single => exact ⟨hcancel _ h, rfl⟩
    case deadLetter.deadLetter => exact ⟨hcancel _ h, rfl⟩
    case numbered.numbered a b =>
      simp only [text, ← String.append_assoc] at h
      obtain ⟨hstart, rfl⟩ :=
        Text.Digits.append_repr_inj (endsInMark_start m) (endsInMark_start n) h
      exact ⟨hcancel _ hstart, rfl⟩
    all_goals
      subst_vars
      simp_all
  · rintro ⟨rfl, rfl⟩
    rfl

end NameTail

namespace RetryTopics

open NameTail

/-! ## Tails of a chain -/

/-- The tail of a retry topic, one of `count`. -/
def retryTail (indexSuffix : Bool) (count index : Nat) (delay : Duration) : NameTail :=
  if count = 1 then .single
  else if indexSuffix then .numbered index
  else .numbered delay.toMillis

theorem text_retryTail (indexSuffix : Bool) (count index : Nat) (delay : Duration) :
    (retryTail indexSuffix count index delay).text =
      retrySuffix indexSuffix count index delay := by
  unfold retryTail retrySuffix
  split
  · rfl
  · split <;> rfl

/-- The tails of the retry topics of a chain. -/
def retryTails (r : RetryTopics) : List NameTail :=
  r.retryDelays.mapIdx fun index delay =>
    retryTail r.indexSuffix r.retryDelays.length index delay

/-- The tails of a chain. -/
def tails (r : RetryTopics) : List NameTail := r.retryTails ++ [.deadLetter]

/-- The names of a chain. -/
def names (r : RetryTopics) (mainTopic : String) : List String :=
  (r.destinations mainTopic).map Destination.name

/-- The tails depend on the configuration alone. -/
theorem names_eq (r : RetryTopics) (mainTopic : String) :
    r.names mainTopic = r.tails.map fun tail => mainTopic ++ tail.text := by
  have hretries : (r.retries mainTopic).map Destination.name =
      r.retryTails.map fun tail => mainTopic ++ tail.text := by
    apply List.ext_getElem?
    intro i
    simp only [retries, retryTails, List.getElem?_map, List.getElem?_mapIdx, Option.map_map,
      Function.comp_def, text_retryTail]
    rfl
  rw [names, destinations_eq, List.map_append, hretries, tails, List.map_append]
  rfl

/-! ## Chains of different topics -/

/-- A template over a factory without entries. -/
def plainTemplate : Template := .new .assembled (.new .assembled .empty)

/-- A name that two chains have in common is one of the same main topic, whatever configurations the
chains have and whatever the main topics end in. -/
theorem mainTopic_eq_of_mem_names {r s : RetryTopics} {m n name : String}
    (hfirst : name ∈ (r.destinations m).map Destination.name)
    (hsecond : name ∈ (s.destinations n).map Destination.name) : m = n := by
  have hr : name ∈ r.names m := hfirst
  have hs : name ∈ s.names n := hsecond
  rw [names_eq] at hr hs
  obtain ⟨t, -, ht⟩ := List.mem_map.mp hr
  obtain ⟨u, -, hu⟩ := List.mem_map.mp hs
  exact ((append_text_eq_iff m n t u).mp (ht.trans hu.symm)).1

/-- A main topic that looks like a retry topic of another one, with a chain that is numbered and one
that is named for its pauses: both end in the same dead-letter topic. -/
theorem mainTopic_eq_of_mem_names_lookalike :
    "orders-retry-1-dlt" ∈ ((new plainTemplate).destinations "orders-retry-1").map
        Destination.name ∧
      "orders-retry-1-dlt" ∈ ((ofSettings .default plainTemplate).destinations
        "orders-retry-1").map Destination.name ∧
      "orders-retry-1" = "orders-retry-1" := by
  have hfirst : "orders-retry-1-dlt" ∈
      ((new plainTemplate).destinations "orders-retry-1").map Destination.name := by decide
  have hsecond : "orders-retry-1-dlt" ∈
      ((ofSettings .default plainTemplate).destinations "orders-retry-1").map
        Destination.name := by decide
  exact ⟨hfirst, hsecond, mainTopic_eq_of_mem_names hfirst hsecond⟩

/-! ## Names of one chain -/

theorem numbered_injective : Function.Injective NameTail.numbered := fun _ _ h =>
  NameTail.numbered.inj h

/-- Of several retry topics each has a number: its own, or that of its milliseconds. -/
theorem retryTails_eq_map {r : RetryTopics} (hseveral : r.retryDelays.length ≠ 1) :
    r.retryTails = (if r.indexSuffix then List.range r.retryDelays.length
      else r.retryDelays.map Duration.toMillis).map .numbered := by
  apply List.ext_getElem?
  intro i
  simp only [retryTails, List.getElem?_mapIdx, retryTail, if_neg hseveral, List.getElem?_map]
  split
  · by_cases hi : i < r.retryDelays.length
    · rw [List.getElem?_range hi, List.getElem?_eq_getElem hi]
      rfl
    · rw [List.getElem?_eq_none (by omega), List.getElem?_eq_none (by simpa using hi)]
      rfl
  · rw [List.getElem?_map, Option.map_map]
    rfl

theorem nodup_retryTails_iff (r : RetryTopics) :
    r.retryTails.Nodup ↔
      r.indexSuffix = true ∨ (r.retryDelays.map Duration.toMillis).Nodup := by
  by_cases hone : r.retryDelays.length = 1
  · obtain ⟨d, hd⟩ := List.length_eq_one_iff.mp hone
    simp [retryTails, hd]
  · rw [retryTails_eq_map hone, List.nodup_map_iff numbered_injective]
    split
    · next hindex => exact ⟨fun _ => .inl hindex, fun _ => List.nodup_range⟩
    · next hindex => exact ⟨.inr, fun h => h.resolve_left hindex⟩

theorem deadLetter_notMem_retryTails (r : RetryTopics) : NameTail.deadLetter ∉ r.retryTails := by
  intro h
  obtain ⟨index, hlt, htail⟩ := List.mem_mapIdx.mp h
  unfold retryTail at htail
  split at htail
  · cases htail
  · split at htail <;> cases htail

theorem nodup_tails_iff (r : RetryTopics) : r.tails.Nodup ↔ r.retryTails.Nodup := by
  rw [tails, List.nodup_append]
  constructor
  · exact fun h => h.1
  · refine fun h => ⟨h, List.nodup_singleton _, fun t ht u hu => ?_⟩
    rw [List.mem_singleton.mp hu]
    rintro rfl
    exact r.deadLetter_notMem_retryTails ht

/-- The names of a chain are distinct just when its topics are numbered, or else no two retry topics
have the same pause in whole milliseconds. -/
theorem nodup_names_iff (r : RetryTopics) (mainTopic : String) :
    ((r.destinations mainTopic).map Destination.name).Nodup ↔
      r.indexSuffix = true ∨ (r.retryDelays.map Duration.toMillis).Nodup := by
  have hinjective : Function.Injective fun tail : NameTail => mainTopic ++ tail.text :=
    fun t u h => ((append_text_eq_iff mainTopic mainTopic t u).mp h).2
  have hnames : (r.destinations mainTopic).map Destination.name =
      r.tails.map fun tail => mainTopic ++ tail.text := r.names_eq mainTopic
  rw [hnames, List.nodup_map_iff hinjective, nodup_tails_iff, nodup_retryTails_iff]

/-- The chain of three attempts, one second apart, that is neither shared nor numbered: both retry
topics are named for the second. -/
theorem new_repeats_name :
    ((new plainTemplate).destinations "orders").map Destination.name =
        ["orders-retry-1000", "orders-retry-1000", "orders-dlt"] ∧
      ¬ (((new plainTemplate).destinations "orders").map Destination.name).Nodup := by
  decide

end RetryTopics

end ClientWiring.Kafka
