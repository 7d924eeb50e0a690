import ClientWiring.Kafka.RetryTopics

/-!
# What a shared retry chain stands for

Sharing topics cuts the chain after the first of the equal pauses at its end.  Every list of pauses
ends in such a run, `before ++ replicate (count + 1) d` where `before` does not end in `d`, and the
shared chain is `before ++ [d]`                                                 (exists_sharedEnd).
All facts about it are read off this form: the pause of an attempt is found in the chain at its
place, or else at the end of the chain; and no shorter chain tells them all:

    (sharedEnd ds)[min i ((sharedEnd ds).length - 1)]? = ds[i]?              (recovers_sharedEnd)
    Recovers chain ds → (sharedEnd ds).length ≤ chain.length     (length_sharedEnd_le_of_recovers)
    sharedEnd ds = ds.take (ds.length - trailing ds + 1)                      (sharedEnd_eq_take)
-/

namespace ClientWiring.Kafka.RetryTopics

/-- The pause of each attempt is in a chain at the place of the attempt, or behind the end of the
chain at its last place. -/
def Recovers (chain ds : List Duration) : Prop :=
  ∀ i, i < ds.length → chain[min i (chain.length - 1)]? = ds[i]?

/-- How many pauses at the end are the same as the last one. -/
def trailing (ds : List Duration) : Nat :=
  (ds.reverse.takeWhile fun d => some d = ds.getLast?).length

/-! ## The run of equal pauses at the end -/

theorem sharedEnd_cons_of_all {d : Duration} {rest : List Duration}
    (hall : rest.all (· = d) = true) : sharedEnd (d :: rest) = [d] := by
  rw [sharedEnd, if_pos hall]

theorem sharedEnd_cons_of_not_all {d : Duration} {rest : List Duration}
    (hall : ¬ rest.all (· = d) = true) : sharedEnd (d :: rest) = d :: sharedEnd rest := by
  rw [sharedEnd, if_neg hall]

/-- By induction on the pauses; the run at the end of the rest reaches the front only when all of
them are the same. -/
theorem exists_sharedEnd (ds : List Duration) (hne : ds ≠ []) :
    ∃ before d count, ds = before ++ List.replicate (count + 1) d ∧
      sharedEnd ds = before ++ [d] ∧ before.getLast? ≠ some d := by
  induction ds with
  | nil => exact absurd rfl hne
  | cons d rest ih =>
    by_cases hall : rest.all (· = d) = true
    · refine ⟨[], d, rest.length, ?_, sharedEnd_cons_of_all hall, by simp⟩
      have hrest : rest = List.replicate rest.length d := by
        rw [List.eq_replicate_iff]
        exact ⟨rfl, by simpa using hall⟩
      rw [List.nil_append, List.replicate_succ, ← hrest]
    · have hrest : rest ≠ [] := by
        rintro rfl
        exact hall rfl
      obtain ⟨before, e, count, hsplit, hshared, hlast⟩ := ih hrest
      refine ⟨d :: before, e, count, ?_, ?_, ?_⟩
      · rw [hsplit, List.cons_append]
      · rw [sharedEnd_cons_of_not_all hall, hshared, List.cons_append]
      · cases before with
        | nil =>
          -- the run is all of the rest, so the first pause is not one of it
          rintro ⟨⟩
          apply hall
          rw [hsplit]
          simp
        | cons b before =>
          rw [List.getLast?_cons_cons]
          exact hlast

theorem sharedEnd_eq_nil_iff (ds : List Duration) : sharedEnd ds = [] ↔ ds = [] := by
  constructor
  · intro h
    by_cases hne : ds = []
    · exact hne
    · obtain ⟨before, d, count, -, hshared, -⟩ := exists_sharedEnd ds hne
      rw [hshared] at h
      simp at h
  · rintro rfl
    rfl

/-- Sharing keeps the front of the pauses. -/
theorem sharedEnd_isPrefix (ds : List Duration) : sharedEnd ds <+: ds := by
  by_cases hne : ds = []
  · rw [hne]
    exact List.prefix_rfl
  · obtain ⟨before, d, count, hsplit, hshared, -⟩ := exists_sharedEnd ds hne
    refine ⟨List.replicate count d, ?_⟩
    rw [hshared, hsplit, List.replicate_succ, List.append_assoc, List.singleton_append]

/-! ## No pause is lost, and none is left over -/

theorem recovers_sharedEnd (ds : List Duration) : Recovers (sharedEnd ds) ds := by
  intro i hi
  have hne : ds ≠ [] := by
    rintro rfl
    simp at hi
  obtain ⟨before, d, count, hsplit, hshared, -⟩ := exists_sharedEnd ds hne
  have hlength : (sharedEnd ds).length - 1 = before.length := by
    rw [hshared, List.length_append, List.length_singleton]
    omega
  rw [hlength, hshared]
  by_cases hfront : i < before.length
  · rw [Nat.min_eq_left (by omega), hsplit, List.getElem?_append_left hfront,
      List.getElem?_append_left hfront]
  · have hback : i - before.length < count + 1 := by
      rw [hsplit, List.length_append, List.length_replicate] at hi
      omega
    rw [Nat.min_eq_right (by omega), hsplit, List.getElem?_concat_length,
      List.getElem?_append_right (by omega), List.getElem?_replicate, if_pos hback]

/-- The last two pauses of a shared chain are different. -/
theorem sharedEnd_last_two (ds : List Duration) (htwo : 2 ≤ (sharedEnd ds).length) :
    (sharedEnd ds)[(sharedEnd ds).length - 2]? ≠ (sharedEnd ds)[(sharedEnd ds).length - 1]? := by
  have hne : ds ≠ [] := by
    rintro rfl
    simp [sharedEnd] at htwo
  obtain ⟨before, d, count, -, hshared, hlast⟩ := exists_sharedEnd ds hne
  rw [hshared, List.length_append, List.length_singleton] at htwo ⊢
  have hlasttwo : before.length + 1 - 2 = before.length - 1 := by omega
  have hlastone : before.length + 1 - 1 = before.length := by omega
  rw [hlasttwo, hlastone, List.getElem?_append_left (by omega), List.getElem?_concat_length,
    ← List.getLast?_eq_getElem?]
  exact hlast

/-- A chain that tells two pauses apart is long enough to have a place of its own for the first. -/
theorem lt_length_of_recovers {chain ds : List Duration} (h : Recovers chain ds) {i : Nat}
    (hi : i + 1 < ds.length) (hne : ds[i]? ≠ ds[i + 1]?) : i + 1 < chain.length := by
  by_cases hlong : i + 1 < chain.length
  · exact hlong
  · -- both attempts would end up at the last place
    have hfirst := h i (by omega)
    have hsecond := h (i + 1) hi
    rw [Nat.min_eq_right (by omega)] at hfirst hsecond
    exact absurd (hfirst.symm.trans hsecond) hne

/-- No chain that tells all pauses is shorter than the shared one. -/
theorem length_sharedEnd_le_of_recovers {chain ds : List Duration} (h : Recovers chain ds) :
    (sharedEnd ds).length ≤ chain.length := by
  by_cases hne : ds = []
  · rw [hne]
    exact Nat.zero_le _
  · obtain ⟨before, d, count, hsplit, hshared, hlast⟩ := exists_sharedEnd ds hne
    have hlength : ds.length = before.length + (count + 1) := by
      rw [hsplit, List.length_append, List.length_replicate]
    have hsome : ∀ i, before.length ≤ i → i < ds.length → ds[i]? = some d := by
      intro i hle hi
      rw [hsplit, List.getElem?_append_right hle, List.getElem?_replicate, if_pos (by omega)]
    rw [hshared, List.length_append, List.length_singleton]
    by_cases hbefore : before.length = 0
    · -- one place is needed for the only pause
      have hfirst := h 0 (by omega)
      rw [hsome 0 (by omega) (by omega), Nat.zero_min] at hfirst
      obtain ⟨hpos, -⟩ := List.getElem?_eq_some_iff.mp hfirst
      omega
    · have hcut : before.length - 1 + 1 = before.length := by omega
      have hchange : ds[before.length - 1]? ≠ ds[before.length - 1 + 1]? := by
        rw [hcut, hsome before.length (by omega) (by omega), hsplit,
          List.getElem?_append_left (by omega), ← List.getLast?_eq_getElem?]
        exact hlast
      have hlong := lt_length_of_recovers h (by omega) hchange
      omega

/-! ## The place of the cut -/

theorem trailing_eq {before : List Duration} {d : Duration} {count : Nat}
    (hlast : before.getLast? ≠ some d) :
    trailing (before ++ List.replicate (count + 1) d) = count + 1 := by
  have hend : (before ++ List.replicate (count + 1) d).getLast? = some d := by
    rw [List.replicate_succ', ← List.append_assoc, List.getLast?_concat]
  unfold trailing
  rw [hend, List.reverse_append, List.reverse_replicate,
    List.takeWhile_append_of_pos (by simp)]
  have hstop : before.reverse.takeWhile (fun e => decide (some e = some d)) = [] := by
    rw [← List.head?_reverse] at hlast
    cases hback : before.reverse with
    | nil => rfl
    | cons e others =>
      rw [hback, List.head?_cons] at hlast
      rw [List.takeWhile_cons_of_neg (by simpa using hlast)]
  rw [hstop, List.append_nil, List.length_replicate]

/-- The run at the end is neither empty nor longer than the list. -/
theorem trailing_bounds {ds : List Duration} (hne : ds ≠ []) :
    1 ≤ trailing ds ∧ trailing ds ≤ ds.length := by
  obtain ⟨before, d, count, hsplit, -, hlast⟩ := exists_sharedEnd ds hne
  rw [hsplit, trailing_eq hlast, List.length_append, List.length_replicate]
  omega

/-- The cut stands behind the first pause of the run. -/
theorem sharedEnd_eq_take {ds : List Duration} (hne : ds ≠ []) :
    sharedEnd ds = ds.take (ds.length - trailing ds + 1) := by
  obtain ⟨before, d, count, hsplit, hshared, hlast⟩ := exists_sharedEnd ds hne
  have hcut : ds.length - trailing ds + 1 = before.length + 1 := by
    rw [hsplit, trailing_eq hlast, List.length_append, List.length_replicate]
    omega
  rw [hcut, hshared, hsplit, List.take_length_add_append, List.replicate_succ, List.take_succ_cons,
    List.take_zero]

/-- Pauses that grow to a longest one are shared from there on, and only there. -/
example : sharedEnd ([1, 1, 2, 4, 4, 4].map .ofSeconds) = [1, 1, 2, 4].map .ofSeconds := by decide

/-! ## The chain of a topic -/

theorem length_delays (r : RetryTopics) : r.delays.length = r.maxAttempts.toNat - 1 := by
  rw [delays, List.length_map, List.length_range]

theorem getElem?_delays {r : RetryTopics} {i : Nat} (hi : i < r.maxAttempts.toNat - 1) :
    r.delays[i]? = some (r.backOff.interval (UInt32.ofNat i)) := by
  rw [delays, List.getElem?_map, List.getElem?_range hi]
  rfl

/-- The retry topics of a chain. -/
def retries (r : RetryTopics) (mainTopic : String) : List Destination :=
  r.retryDelays.mapIdx fun index delay =>
    r.retryDestination mainTopic r.retryDelays.length delay index

theorem destinations_eq (r : RetryTopics) (mainTopic : String) :
    r.destinations mainTopic = r.retries mainTopic ++ [deadLetter mainTopic] := rfl

theorem length_retries (r : RetryTopics) (mainTopic : String) :
    (r.retries mainTopic).length = r.retryDelays.length := List.length_mapIdx

theorem delay_retries (r : RetryTopics) (mainTopic : String) :
    (r.retries mainTopic).map Destination.delay = r.retryDelays := by
  apply List.ext_getElem?
  intro i
  rw [retries, List.getElem?_map, List.getElem?_mapIdx, Option.map_map]
  exact Option.map_id'

theorem kind_of_mem_retries {r : RetryTopics} {mainTopic : String} {t : Destination}
    (h : t ∈ r.retries mainTopic) : t.kind = .retry := by
  obtain ⟨index, hlt, rfl⟩ := List.mem_mapIdx.mp h
  rfl

/-- The chain of any configuration: retry topics, then the dead-letter topic.  Without sharing there
is one retry topic for each further attempt; with sharing the chain is cut, stands for all pauses,
and is as short as a chain that does can be. -/
theorem destinations_recover (r : RetryTopics) (mainTopic : String) :
    ∃ retries : List Destination,
      r.destinations mainTopic = retries ++ [⟨mainTopic ++ "-dlt", .zero, .deadLetter⟩] ∧
      (∀ t ∈ retries, t.kind = .retry) ∧
      (r.singleTopic = false → retries.map Destination.delay =
        (List.range (r.maxAttempts.toNat - 1)).map fun i => r.backOff.interval (UInt32.ofNat i)) ∧
      (r.singleTopic = true →
        retries.map Destination.delay <+: r.delays ∧
        (retries = [] ↔ r.maxAttempts.toNat - 1 = 0) ∧
        (∀ i, i < r.maxAttempts.toNat - 1 →
          (retries.map Destination.delay)[min i (retries.length - 1)]? =
            some (r.backOff.interval (UInt32.ofNat i))) ∧
        (2 ≤ retries.length → (retries.map Destination.delay)[retries.length - 2]? ≠
          (retries.map Destination.delay)[retries.length - 1]?) ∧
        (∀ chain, Recovers chain r.delays → retries.length ≤ chain.length)) ∧
      (r.delays ≠ [] → 1 ≤ trailing r.delays ∧ trailing r.delays ≤ r.delays.length ∧
        sharedEnd r.delays = r.delays.take (r.delays.length - trailing r.delays + 1)) := by
  refine ⟨r.retries mainTopic, destinations_eq r mainTopic, fun t ht => kind_of_mem_retries ht,
    ?_, ?_, ?_⟩
  · intro hapart
    rw [delay_retries, retryDelays, hapart]
    rfl
  · intro hshared
    have hdelays : r.retryDelays = sharedEnd r.delays := by
      rw [retryDelays, hshared]
      rfl
    rw [delay_retries, length_retries, hdelays]
    refine ⟨sharedEnd_isPrefix r.delays, ?_, ?_, sharedEnd_last_two r.delays,
      fun chain hchain => length_sharedEnd_le_of_recovers hchain⟩
    · rw [← List.length_eq_zero_iff, length_retries, hdelays, List.length_eq_zero_iff,
        sharedEnd_eq_nil_iff, ← List.length_eq_zero_iff, length_delays]
    · intro i hi
      have hplace := recovers_sharedEnd r.delays i (by rw [length_delays]; exact hi)
      rw [hplace, getElem?_delays hi]
  · intro hne
    obtain ⟨hpos, hle⟩ := trailing_bounds hne
    exact ⟨hpos, hle, sharedEnd_eq_take hne⟩

end ClientWiring.Kafka.RetryTopics
