import Arboretum.Proofs.SingleFlight

/-!
# The states of a loader

Within an epoch a loader is absent, then loading, then loaded or failed, and stays so up to the
next invalidation. What was started before an invalidation does not reach what comes after it.

* `LoadState.Moves`, `Traffic.Fits.moves_step`: the moves of one event.
* `Traffic.Settled`: a settled epoch answers every load with its outcome and starts nothing;
  `Settled.step` and `Settled.run` say that this lasts.
* `Traffic.Agree`: two runs that differ in acquisitions of earlier epochs only; `Agree.step` and
  `Agree.ended_early` keep it, whether or not such an acquisition ends, and `Agree.run` concludes
  for whole runs.
* `Traffic.lifecycle`: the three together.
-/

namespace Arboretum

open Traffic (Event)

variable {endings : Nat → Ending} {package : String} {release : Release} {epochs : List Nat}

/-! ## Moves -/

/-- How the state of a loader may change within an epoch. -/
inductive LoadState.Moves : LoadState → LoadState → Prop
  | stay (state : LoadState) : Moves state state
  | start : Moves .absent .loading
  | load : Moves .loading .loaded
  | fail : Moves .loading .failed

theorem Slot.moves_settled (i : Nat) (outcome : Outcome) :
    (Slot.loading i).state.Moves (Slot.settled outcome).state := by
  cases outcome with
  | ok handle => exact .load
  | error cause => exact .fail

theorem Loader.moves_load (loader : Loader) : loader.state.Moves loader.load.1.state := by
  unfold state
  cases h : loader.current with
  | absent =>
    rw [load_of_absent h]
    exact .start
  | loading i =>
    rw [load_of_loading h, h]
    exact .stay _
  | settled outcome =>
    rw [load_of_settled h, h]
    exact .stay _

theorem Loader.Fits.moves_finish {loader : Loader} {busy : List Nat}
    (h : loader.Fits endings busy) (i : Nat) (ending : Ending) :
    loader.state.Moves (loader.finish i ending).state := by
  unfold state
  rcases h.finish_current i ending with hsame | ⟨hloading, outcome, hsettled⟩
  · rw [hsame]
    exact .stay _
  · rw [hloading, hsettled]
    exact Slot.moves_settled i outcome

/-- An event other than an invalidation moves the state along the lifecycle or leaves it. -/
theorem Traffic.Fits.moves_step {s : Traffic} (h : s.Fits endings package release epochs)
    {event : Event} (hevent : event ≠ .invalidate) :
    s.loader.state.Moves (s.step endings event).loader.state := by
  cases event with
  | load => exact s.loader.moves_load
  | resume k => exact .stay _
  | cancel k => exact .stay _
  | invalidate => exact absurd rfl hevent
  | ended i => exact h.loader.moves_finish i (endings i)

/-! ## Settled epochs -/

/-- The current epoch is settled with an outcome, no acquisition was started beyond a number, and
the loads behind the first `n` have got the result. -/
structure Traffic.Settled (outcome : Outcome) (result : Except Error Handle) (count n : Nat)
    (s : Traffic) : Prop where
  current : s.loader.current = .settled outcome
  result_eq : s.loader.result outcome = result
  counted : s.loader.acquisitions = count
  calls : ∀ (k : Nat) call, n ≤ k → s.calls[k]? = some call → call = .returned result

namespace Traffic.Settled

variable {outcome : Outcome} {result : Except Error Handle} {count n : Nat} {s : Traffic}

theorem modify (h : s.Settled outcome result count n) {change : LoadCall → LoadCall}
    (hchange : change (.returned result) = .returned result) (k : Nat) :
    Traffic.Settled outcome result count n { s with calls := s.calls.modify k change } where
  current := h.current
  result_eq := h.result_eq
  counted := h.counted
  calls := by
    intro j call hj hcall
    rw [List.getElem?_modify] at hcall
    obtain ⟨old, hold, rfl⟩ := Option.map_eq_some_iff.mp hcall
    rw [h.calls j old hj hold, hchange, ite_self]

theorem step (h : s.Settled outcome result count n) (hfits : s.Fits endings package release epochs)
    {event : Event} (hevent : event ≠ .invalidate) :
    (s.step endings event).Settled outcome result count n := by
  cases event with
  | load =>
    have hload := Loader.load_of_settled h.current
    refine ⟨?_, ?_, ?_, ?_⟩
    · rw [Traffic.step, hload]
      exact h.current
    · rw [Traffic.step, hload]
      exact h.result_eq
    · rw [Traffic.step, hload]
      exact h.counted
    · intro k call hk hcall
      rw [Traffic.step, hload, List.getElem?_append] at hcall
      split at hcall
      · exact h.calls k call hk hcall
      · rw [List.mem_singleton.mp (List.mem_of_getElem? hcall), LoadCall.ofJoined, h.result_eq]
  | resume k => exact h.modify rfl k
  | cancel k => exact h.modify rfl k
  | invalidate => exact absurd rfl hevent
  | ended i =>
    have hcurrent : (s.loader.finish i (endings i)).current = .settled outcome := by
      rcases hfits.loader.finish_current i (endings i) with hsame | ⟨hloading, -⟩
      · rw [hsame, h.current]
      · rw [h.current] at hloading
        exact absurd hloading (by simp)
    have hresult : (s.loader.finish i (endings i)).result outcome = result := by
      rw [← h.result_eq]
      cases outcome <;> simp [Loader.result]
    exact ⟨hcurrent, hresult, (s.loader.acquisitions_finish i _).trans h.counted, h.calls⟩

/-- A settled epoch stays so up to the next invalidation. -/
theorem run (h : s.Settled outcome result count n) (hfits : s.Fits endings package release epochs)
    {span : List Event} (hspan : .invalidate ∉ span) :
    (s.run endings span).Settled outcome result count n := by
  induction span generalizing s epochs with
  | nil => exact h
  | cons event rest ih =>
    have hevent : event ≠ .invalidate := fun heq => hspan (heq ▸ List.mem_cons_self)
    exact ih (h.step hfits hevent) (hfits.step event)
      fun hin => hspan (List.mem_cons_of_mem event hin)

end Traffic.Settled

/-! ## Earlier acquisitions -/

/-- Two loaders that may differ in how their first `n` acquisitions ended, all of earlier
epochs. -/
structure Loader.Agree (n : Nat) (loader other : Loader) : Prop where
  package : loader.package = other.package
  release : loader.release = other.release
  epoch : loader.epoch = other.epoch
  current : loader.current = other.current
  acquisitions : loader.acquisitions = other.acquisitions
  length : loader.started.length = other.started.length
  started : ∀ i, n ≤ i → loader.started[i]? = other.started[i]?
  enough : n ≤ loader.started.length
  early : ∀ (i : Nat) acquisition, i < n → loader.started[i]? = some acquisition →
    acquisition.epoch < loader.epoch
  recent : ∀ i, loader.current = .loading i → n ≤ i

namespace Loader.Agree

variable {n : Nat} {loader other : Loader}

theorem result (h : loader.Agree n other) (outcome : Outcome) :
    loader.result outcome = other.result outcome := by
  cases outcome <;> simp [Loader.result, h.package]

theorem received? (h : loader.Agree n other) {i : Nat} (hi : n ≤ i) :
    loader.received? i = other.received? i := by
  unfold Loader.received?
  simp only [h.started i hi, h.result]

theorem spawn (h : loader.Agree n other) : loader.spawn.Agree n other.spawn where
  package := h.package
  release := h.release
  epoch := h.epoch
  current := by rw [Loader.spawn, Loader.spawn, h.length]
  acquisitions := by rw [Loader.spawn, Loader.spawn, h.acquisitions]
  length := by simp [Loader.spawn, h.length]
  started := by
    intro i hi
    rw [Loader.spawn, Loader.spawn, List.getElem?_append, List.getElem?_append, h.length,
      h.started i hi, h.epoch]
  enough := by
    have := h.enough
    rw [Loader.spawn, List.length_append]
    omega
  early := by
    intro i acquisition hi hget
    rw [Loader.spawn, List.getElem?_append_left (Nat.lt_of_lt_of_le hi h.enough)] at hget
    exact h.early i acquisition hi hget
  recent := by
    intro i hi
    cases hi
    exact h.enough

/-- A load finds the same and does the same. -/
theorem load (h : loader.Agree n other) :
    loader.load.1.Agree n other.load.1 ∧ loader.load.2 = other.load.2 := by
  cases hcurrent : loader.current with
  | absent =>
    rw [load_of_absent hcurrent, load_of_absent (h.current ▸ hcurrent)]
    exact ⟨h.spawn, by rw [h.length]⟩
  | loading i =>
    rw [load_of_loading hcurrent, load_of_loading (h.current ▸ hcurrent)]
    exact ⟨h, rfl⟩
  | settled outcome =>
    rw [load_of_settled hcurrent, load_of_settled (h.current ▸ hcurrent)]
    exact ⟨h, rfl⟩

theorem invalidate (h : loader.Agree n other) : loader.invalidate.Agree n other.invalidate where
  package := h.package
  release := h.release
  epoch := by rw [epoch_invalidate, epoch_invalidate, h.epoch]
  current := rfl
  acquisitions := h.acquisitions
  length := h.length
  started := h.started
  enough := h.enough
  early := by
    intro i acquisition hi hget
    have := h.early i acquisition hi hget
    rw [epoch_invalidate]
    omega
  recent := fun i hi => by simp [Loader.invalidate] at hi

theorem early_finish (h : loader.Agree n other) (i : Nat) (ending : Ending) (j : Nat)
    (acquisition : Acquisition) (hj : j < n)
    (hget : (loader.finish i ending).started[j]? = some acquisition) :
    acquisition.epoch < (loader.finish i ending).epoch := by
  obtain ⟨before, hbefore, hepoch⟩ := exists_started_of_finish hget
  rw [epoch_finish, ← hepoch]
  exact h.early j before hj hbefore

/-- The end of an early acquisition does not reach the current slot. -/
theorem current_finish_early (h : loader.Agree n other) {i : Nat} (hi : i < n) (ending : Ending) :
    (loader.finish i ending).current = loader.current :=
  current_finish_of_ne (fun a ha => Nat.ne_of_lt (h.early i a hi ha)) ending

theorem finish_early (h : loader.Agree n other) {i : Nat} (hi : i < n) (ending : Ending) :
    (loader.finish i ending).Agree n other where
  package := (loader.package_finish i ending).trans h.package
  release := (loader.release_finish i ending).trans h.release
  epoch := (loader.epoch_finish i ending).trans h.epoch
  current := (h.current_finish_early hi ending).trans h.current
  acquisitions := (loader.acquisitions_finish i ending).trans h.acquisitions
  length := (loader.length_finish i ending).trans h.length
  started := fun j hj => (started_finish_of_ne (by omega) ending).trans (h.started j hj)
  enough := loader.length_finish i ending ▸ h.enough
  early := h.early_finish i ending
  recent := fun j hj => h.recent j ((h.current_finish_early hi ending).symm.trans hj)

/-- A later acquisition ends for both. -/
theorem finish (h : loader.Agree n other) {i : Nat} (hi : n ≤ i) (ending : Ending) :
    (loader.finish i ending).Agree n (other.finish i ending) := by
  by_cases hrun : ∃ epoch, loader.started[i]? = some ⟨epoch, .silent⟩
  · obtain ⟨epoch, hrun⟩ := hrun
    have hother := h.started i hi ▸ hrun
    refine ⟨?_, ?_, ?_, ?_, ?_, ?_, ?_, ?_, h.early_finish i ending, ?_⟩
    · rw [package_finish, package_finish, h.package]
    · rw [release_finish, release_finish, h.release]
    · rw [epoch_finish, epoch_finish, h.epoch]
    · rw [current_finish_of_running hrun, current_finish_of_running hother, h.release, h.epoch,
        h.current]
    · rw [acquisitions_finish, acquisitions_finish, h.acquisitions]
    · rw [length_finish, length_finish, h.length]
    · intro j hj
      rw [started_finish_of_running hrun, started_finish_of_running hother, h.release,
        h.started j hj]
    · rw [length_finish]
      exact h.enough
    · intro j hj
      rw [current_finish_of_running hrun] at hj
      split at hj
      · split at hj
        · exact absurd hj (by simp)
        · exact h.recent j hj
      · exact h.recent j hj
  · have hother : ∀ epoch, other.started[i]? ≠ some ⟨epoch, .silent⟩ :=
      fun epoch heq => hrun ⟨epoch, (h.started i hi).trans heq⟩
    rw [finish_of_not_running (not_exists.mp hrun), finish_of_not_running hother]
    exact h

end Loader.Agree

/-- Traffic that may differ in how the first `n` acquisitions ended and in the first `m` loads. -/
structure Traffic.Agree (n m : Nat) (s t : Traffic) : Prop where
  loader : s.loader.Agree n t.loader
  length : s.calls.length = t.calls.length
  calls : ∀ k, m ≤ k → s.calls[k]? = t.calls[k]?
  recent : ∀ k i : Nat, m ≤ k → s.calls[k]? = some (.waiting i) → n ≤ i

namespace Traffic.Agree

variable {n m : Nat} {s t : Traffic}

theorem poll {loader other : Loader} (h : loader.Agree n other) {call : LoadCall}
    (hcall : ∀ i, call = .waiting i → n ≤ i) : call.poll loader = call.poll other := by
  cases call with
  | waiting i => simp only [LoadCall.poll, h.received? (hcall i rfl)]
  | returned result => rfl
  | cancelled => rfl

/-- One load is changed alike in both runs. -/
theorem modify (h : s.Agree n m t) {f g : LoadCall → LoadCall}
    (hsame : ∀ call : LoadCall, (∀ i, call = .waiting i → n ≤ i) → f call = g call)
    (hwaiting : ∀ call i, f call = .waiting i → call = .waiting i) (k : Nat) :
    Traffic.Agree n m { s with calls := s.calls.modify k f }
      { t with calls := t.calls.modify k g } where
  loader := h.loader
  length := by rw [List.length_modify, List.length_modify, h.length]
  calls := by
    intro j hj
    rw [List.getElem?_modify, List.getElem?_modify, ← h.calls j hj]
    cases hcall : s.calls[j]? with
    | none => rfl
    | some call =>
      have hfg := hsame call fun i hi => h.recent j i hj (hi ▸ hcall)
      simp only [Option.map_eq_map, Option.map_some, hfg]
  recent := by
    intro j i hj hcall
    rw [List.getElem?_modify] at hcall
    obtain ⟨old, hold, hnew⟩ := Option.map_eq_some_iff.mp hcall
    split at hnew
    · exact h.recent j i hj (hwaiting old i hnew ▸ hold)
    · exact h.recent j i hj (hnew ▸ hold)

theorem load (h : s.Agree n m t) : (s.step endings .load).Agree n m (t.step endings .load) := by
  obtain ⟨hload, hjoined⟩ := h.loader.load
  have hwaits : ∀ i, s.loader.load.2 = .waits i → n ≤ i :=
    fun i hi => hload.recent i (Loader.current_load_of_waits hi)
  have hnew : LoadCall.ofJoined s.loader.load.1 s.loader.load.2 =
      LoadCall.ofJoined t.loader.load.1 t.loader.load.2 := by
    rw [← hjoined]
    cases hj : s.loader.load.2 with
    | returned outcome => rw [LoadCall.ofJoined, LoadCall.ofJoined, hload.result]
    | waits i =>
      rw [LoadCall.ofJoined, LoadCall.ofJoined]
      refine poll hload fun j hwait => ?_
      cases hwait
      exact hwaits i hj
  refine ⟨hload, ?_, ?_, ?_⟩
  · simp [Traffic.step, h.length]
  · intro k hk
    rw [Traffic.step, Traffic.step, List.getElem?_append, List.getElem?_append, h.length,
      h.calls k hk, hnew]
  · intro k i hk hcall
    rw [Traffic.step, List.getElem?_append] at hcall
    split at hcall
    · exact h.recent k i hk hcall
    · have hlast := List.mem_singleton.mp (List.mem_of_getElem? hcall)
      cases hj : s.loader.load.2 with
      | returned outcome =>
        rw [hj] at hlast
        cases hlast
      | waits j =>
        rw [hj, LoadCall.ofJoined] at hlast
        cases LoadCall.eq_waiting_of_poll hlast.symm
        exact hwaits i hj

end Traffic.Agree

/-- The end of one of the first `n` acquisitions. -/
def Traffic.Event.endsEarly (n : Nat) : Event → Bool
  | .ended i => i < n
  | _ => false

namespace Traffic.Agree

variable {n m : Nat} {s t : Traffic}

/-- The end of an early acquisition in one of them. -/
theorem ended_early (h : s.Agree n m t) {event : Event} (hevent : event.endsEarly n = true) :
    (s.step endings event).Agree n m t := by
  cases event with
  | ended i =>
    have hi : i < n := of_decide_eq_true hevent
    exact ⟨h.loader.finish_early hi (endings i), h.length, h.calls, h.recent⟩
  | load | resume _ | cancel _ | invalidate => exact absurd hevent Bool.false_ne_true

/-- Every event but an early end, taken in both runs, leaves them in agreement. -/
theorem step (h : s.Agree n m t) {event : Event} (hevent : event.endsEarly n = false) :
    (s.step endings event).Agree n m (t.step endings event) := by
  cases event with
  | load => exact h.load
  | resume k =>
    exact h.modify (fun call hcall => poll h.loader hcall)
      (fun call i => LoadCall.eq_waiting_of_poll) k
  | cancel k =>
    exact h.modify (fun call _ => rfl) (fun call i => LoadCall.eq_waiting_of_cancel) k
  | invalidate => exact ⟨h.loader.invalidate, h.length, h.calls, h.recent⟩
  | ended i =>
    have hi : n ≤ i := Nat.le_of_not_lt (of_decide_eq_false hevent)
    exact ⟨h.loader.finish hi (endings i), h.length, h.calls, h.recent⟩

/-- **Early acquisitions do not interfere**: their ends can be left out of a run. -/
theorem run (h : s.Agree n m t) (events : List Event) :
    (s.run endings events).Agree n m
      (t.run endings (events.filter fun event => !event.endsEarly n)) := by
  induction events generalizing s t with
  | nil => exact h
  | cons event rest ih =>
    cases hevent : event.endsEarly n with
    | true =>
      rw [List.filter_cons_of_neg (by simp [hevent])]
      exact ih (h.ended_early hevent)
    | false =>
      rw [List.filter_cons_of_pos (by simp [hevent])]
      exact ih (h.step hevent)

end Traffic.Agree

/-- After an invalidation everything started before is early. -/
theorem Traffic.Fits.agree_invalidate {s : Traffic} (h : s.Fits endings package release epochs) :
    let t := s.step endings .invalidate
    t.Agree t.loader.started.length t.calls.length t := by
  intro t
  refine ⟨⟨rfl, rfl, rfl, rfl, rfl, rfl, fun _ _ => rfl, Nat.le_refl _, ?_, ?_⟩, rfl,
    fun _ _ => rfl, ?_⟩
  · intro i acquisition _ hget
    have hle := h.loader.past acquisition.epoch
      (h.loader.started ▸ List.mem_map_of_mem (List.mem_of_getElem? hget))
    have hepoch : t.loader.epoch = s.loader.epoch + 1 := s.loader.epoch_invalidate
    omega
  · intro i hi
    cases hi
  · intro k i hk hcall
    rw [List.getElem?_eq_none hk] at hcall
    cases hcall

/-! ## The lifecycle -/

theorem Loader.exists_settled {loader : Loader}
    (h : loader.state = .loaded ∨ loader.state = .failed) :
    ∃ outcome, loader.current = .settled outcome := by
  unfold state at h
  cases hcurrent : loader.current with
  | absent => simp [hcurrent, Slot.state] at h
  | loading i => simp [hcurrent, Slot.state] at h
  | settled outcome => exact ⟨outcome, rfl⟩

/-- **The lifecycle of a loader.** At every point of every run:

* an event other than an invalidation leaves the state, or moves it from absent to loading or from
  loading to loaded or failed;
* once loaded or failed, the loader stays so up to the next invalidation, starts nothing, and has
  answered every load since with the outcome in its slot;
* an invalidation makes it absent;
* whatever comes after an invalidation, the ends of acquisitions that were started before it can
  be left out without a change of the state or of any load that came since. -/
theorem Traffic.lifecycle (package : String) (release : Release) (endings : Nat → Ending)
    (events : List Event) :
    let s := (start package release).run endings events
    let invalidated := s.step endings .invalidate
    (∀ event, event ≠ .invalidate →
      s.loader.state.Moves (s.step endings event).loader.state) ∧
    (s.loader.state = .loaded ∨ s.loader.state = .failed →
      ∃ outcome, s.loader.current = .settled outcome ∧ ∀ span, .invalidate ∉ span →
        (s.run endings span).loader.state = s.loader.state ∧
        (s.run endings span).loader.acquisitions = s.loader.acquisitions ∧
        ∀ (k : Nat) call, s.calls.length ≤ k → (s.run endings span).calls[k]? = some call →
          call = .returned (s.loader.result outcome)) ∧
    invalidated.loader.state = .absent ∧
    (∀ later,
      let early := invalidated.loader.started.length
      let isolated := later.filter fun event => !event.endsEarly early
      (invalidated.run endings later).loader.state =
        (invalidated.run endings isolated).loader.state ∧
      ∀ k, invalidated.calls.length ≤ k →
        (invalidated.run endings later).calls[k]? =
          (invalidated.run endings isolated).calls[k]?) := by
  intro s invalidated
  have h : s.Fits endings package release (loadEpochs 0 events) := fits_start.run events
  refine ⟨fun event => h.moves_step, ?_, rfl, ?_⟩
  · intro hstate
    obtain ⟨outcome, hcurrent⟩ := Loader.exists_settled hstate
    have hsettled : s.Settled outcome (s.loader.result outcome) s.loader.acquisitions
        s.calls.length :=
      ⟨hcurrent, rfl, rfl, fun k call hk hcall => by
        rw [List.getElem?_eq_none hk] at hcall
        cases hcall⟩
    refine ⟨outcome, hcurrent, fun span hspan => ?_⟩
    have hrun := hsettled.run h hspan
    refine ⟨?_, hrun.counted, hrun.calls⟩
    rw [Loader.state, Loader.state, hrun.current, hcurrent]
  · intro later early isolated
    have hagree : (invalidated.run endings later).Agree early invalidated.calls.length
        (invalidated.run endings isolated) := h.agree_invalidate.run later
    exact ⟨congrArg Slot.state hagree.loader.current, hagree.calls⟩

end Arboretum
