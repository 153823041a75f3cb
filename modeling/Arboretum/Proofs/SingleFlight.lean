import Arboretum.Proofs.Loading
import Mathlib.Data.Finset.Card
import Mathlib.Data.Finset.Dedup
import Mathlib.Data.List.Induction

/-!
# One acquisition for all the loads of an epoch

A loader with those who load from it is a state machine (`Traffic`). Loads come, are resumed and
are cancelled, the loader is invalidated and acquisitions end, in any order. How the `i`-th
acquisition ends is given by `endings i`.

It is assumed that calls run on one thread and give way only where they wait. A load takes the slot
and looks at it under two locks, one after the other; on one thread nothing comes between them, so a
load up to its wait is one event. So is an end, which puts the outcome into the slot and sends it.

* `Traffic.Fits`: every load that waits, waits for the acquisition of the epoch in which it came,
  and every load that has returned got the reply of that acquisition.
* `Fits.step`, `Fits.run`: one event keeps this, and so does every run.
* `Traffic.single_flight`: what follows for the number of acquisitions and for the replies.
-/

namespace Arboretum

/-! ## Traffic -/

/-- Where a load stands. -/
inductive LoadCall where
  /-- It waits at the channel of an acquisition. -/
  | waiting (acquisition : Nat)
  | returned (result : Except Error Handle)
  | cancelled

namespace LoadCall

/-- A load that waits returns if there is something to be seen at its channel. -/
def poll (loader : Loader) : LoadCall → LoadCall
  | .waiting acquisition =>
    match loader.received? acquisition with
    | some result => .returned result
    | none => .waiting acquisition
  | call => call

/-- A load that has joined goes on until it returns or has to wait. -/
def ofJoined (loader : Loader) : Joined → LoadCall
  | .returned outcome => .returned (loader.result outcome)
  | .waits acquisition => (LoadCall.waiting acquisition).poll loader

/-- Only a load that waits can be given up. -/
def cancel : LoadCall → LoadCall
  | .waiting _ => .cancelled
  | call => call

theorem eq_waiting_of_poll {loader : Loader} {call : LoadCall} {i : Nat}
    (h : call.poll loader = .waiting i) : call = .waiting i := by
  cases call with
  | waiting j =>
    cases hreceived : loader.received? j with
    | none =>
      simp only [poll, hreceived] at h
      exact h
    | some result =>
      simp only [poll, hreceived] at h
      cases h
  | returned result => exact h
  | cancelled => exact h

theorem eq_waiting_of_cancel {call : LoadCall} {i : Nat} (h : call.cancel = .waiting i) :
    call = .waiting i := by
  cases call with
  | waiting j => cases h
  | returned result => exact h
  | cancelled => exact h

end LoadCall

/-- A loader with the loads from it, the first one first. -/
structure Traffic where
  loader : Loader
  calls : List LoadCall

namespace Traffic

/-- What can happen to a loader. A load goes up to its first wait in one step, and an acquisition
settles its slot and sends its outcome in one step, as they do where calls run on one thread. -/
inductive Event where
  | load
  /-- A load that waits looks at its channel. -/
  | resume (call : Nat)
  | cancel (call : Nat)
  | invalidate
  | ended (acquisition : Nat)
  deriving DecidableEq, Repr

def start (package : String) (release : Release) : Traffic := ⟨Loader.new package release, []⟩

def step (endings : Nat → Ending) (s : Traffic) : Event → Traffic
  | .load => ⟨s.loader.load.1, s.calls ++ [.ofJoined s.loader.load.1 s.loader.load.2]⟩
  | .resume k => { s with calls := s.calls.modify k (LoadCall.poll s.loader) }
  | .cancel k => { s with calls := s.calls.modify k LoadCall.cancel }
  | .invalidate => { s with loader := s.loader.invalidate }
  | .ended i => { s with loader := s.loader.finish i (endings i) }

def run (endings : Nat → Ending) (s : Traffic) (events : List Event) : Traffic :=
  events.foldl (step endings) s

theorem run_concat (endings : Nat → Ending) (s : Traffic) (events : List Event) (event : Event) :
    s.run endings (events ++ [event]) = (s.run endings events).step endings event := by
  unfold run
  rw [List.foldl_append]
  rfl

/-- How an acquisition ends counts only in a run in which it does. -/
theorem run_congr {endings other : Nat → Ending} {events : List Event}
    (h : ∀ i, .ended i ∈ events → endings i = other i) (s : Traffic) :
    s.run endings events = s.run other events := by
  induction events using List.reverseRecOn with
  | nil => rfl
  | append_singleton events event ih =>
    rw [run_concat, run_concat, ih fun i hi => h i (List.mem_append_left _ hi)]
    cases event with
    | ended i => rw [step, step, h i (List.mem_append_right _ List.mem_cons_self)]
    | load | resume _ | cancel _ | invalidate => rfl

/-- The epoch of each load: how many invalidations came before it, from `epoch` on. -/
def loadEpochs (epoch : Nat) : List Event → List Nat
  | [] => []
  | .load :: rest => epoch :: loadEpochs epoch rest
  | .invalidate :: rest => loadEpochs (epoch + 1) rest
  | _ :: rest => loadEpochs epoch rest

/-! ## Epochs -/

theorem loadEpochs_cons (epoch : Nat) (event : Event) (rest : List Event) :
    loadEpochs epoch (event :: rest) =
      loadEpochs epoch [event] ++ loadEpochs (epoch + [event].count .invalidate) rest := by
  cases event <;> rfl

theorem loadEpochs_of_ne_load {event : Event} (h : event ≠ .load) (epoch : Nat) :
    loadEpochs epoch [event] = [] := by
  cases event with
  | load => exact absurd rfl h
  | resume _ | cancel _ | invalidate | ended _ => rfl

/-- Loads without an invalidation between them are of one epoch. -/
theorem eq_of_mem_loadEpochs {epoch e : Nat} {span : List Event} (hspan : .invalidate ∉ span)
    (h : e ∈ loadEpochs epoch span) : e = epoch := by
  induction span with
  | nil => exact absurd h List.not_mem_nil
  | cons event rest ih =>
    have hrest : .invalidate ∉ rest := fun hin => hspan (List.mem_cons_of_mem event hin)
    cases event with
    | load =>
      rcases List.mem_cons.mp h with h | h
      · exact h
      · exact ih hrest h
    | invalidate => exact absurd List.mem_cons_self hspan
    | resume _ | cancel _ | ended _ => exact ih hrest h

theorem eraseDups_concat (epochs : List Nat) (epoch : Nat) :
    (epochs ++ [epoch]).eraseDups =
      if epoch ∈ epochs.eraseDups then epochs.eraseDups else epochs.eraseDups ++ [epoch] := by
  rw [List.eraseDups_append]
  by_cases h : epoch ∈ epochs
  · rw [if_pos (List.mem_eraseDups.mpr h)]
    simp [List.removeAll, h]
  · rw [if_neg (fun hin => h (List.mem_eraseDups.mp hin))]
    simp [List.removeAll, h, List.eraseDups_cons]

theorem epoch_step (endings : Nat → Ending) (s : Traffic) (event : Event) :
    (s.step endings event).loader.epoch = s.loader.epoch + [event].count .invalidate := by
  cases event with
  | load => exact s.loader.epoch_load
  | invalidate => exact s.loader.epoch_invalidate
  | ended i => exact s.loader.epoch_finish i (endings i)
  | resume k | cancel k => rfl

end Traffic

/-! ## What every run keeps -/

/-- What can be said of a load that came in an epoch, when acquisitions were started for some
epochs. -/
def LoadCall.Fits (endings : Nat → Ending) (package : String) (release : Release)
    (busy : List Nat) (epoch : Nat) : LoadCall → Prop
  | .waiting i => busy[i]? = some epoch
  | .returned result =>
    ∃ i : Nat, busy[i]? = some epoch ∧ result = (endings i).reply package release epoch
  | .cancelled => True

/-- **Traffic with loads in given epochs**: one acquisition was started for each of these, and each
load has got its reply from that of its epoch or waits for it. -/
structure Traffic.Fits (endings : Nat → Ending) (package : String) (release : Release)
    (epochs : List Nat) (s : Traffic) : Prop where
  loader : s.loader.Fits endings epochs.eraseDups
  package_eq : s.loader.package = package
  release_eq : s.loader.release = release
  length : s.calls.length = epochs.length
  calls : ∀ (k epoch : Nat) (call : LoadCall), epochs[k]? = some epoch → s.calls[k]? = some call →
    call.Fits endings package release epochs.eraseDups epoch

variable {endings : Nat → Ending} {package : String} {release : Release} {busy : List Nat}
  {epoch : Nat} {call : LoadCall}

namespace LoadCall.Fits

theorem mono {more : List Nat} (h : call.Fits endings package release busy epoch)
    (hmore : busy <+: more) : call.Fits endings package release more epoch := by
  obtain ⟨rest, rfl⟩ := hmore
  have hget : ∀ i : Nat, busy[i]? = some epoch → (busy ++ rest)[i]? = some epoch := by
    intro i hi
    rw [List.getElem?_append_left (List.getElem?_eq_some_iff.mp hi).1, hi]
  cases call with
  | waiting i => exact hget i h
  | returned result =>
    obtain ⟨i, hi, hresult⟩ := h
    exact ⟨i, hget i hi, hresult⟩
  | cancelled => trivial

theorem cancel (h : call.Fits endings package release busy epoch) :
    call.cancel.Fits endings package release busy epoch := by
  cases call with
  | waiting i => trivial
  | returned result => exact h
  | cancelled => trivial

theorem poll {loader : Loader} (h : call.Fits endings loader.package loader.release busy epoch)
    (hloader : loader.Fits endings busy) :
    (call.poll loader).Fits endings loader.package loader.release busy epoch := by
  cases call with
  | waiting i =>
    cases hreceived : loader.received? i with
    | none =>
      simp only [LoadCall.poll, hreceived]
      exact h
    | some result =>
      obtain ⟨e, hbusy, hreply⟩ := hloader.received? hreceived
      cases hbusy.symm.trans h
      simp only [LoadCall.poll, hreceived]
      exact ⟨i, h, hreply⟩
  | returned result => exact h
  | cancelled => trivial

/-- A load gets its reply from the acquisition of the current epoch, or waits for that. -/
theorem ofJoined {loader : Loader} (h : loader.Fits endings busy) :
    (LoadCall.ofJoined loader.load.1 loader.load.2).Fits endings loader.package loader.release
      (if loader.epoch ∈ busy then busy else busy ++ [loader.epoch]) loader.epoch := by
  have hload := h.load
  have hmem := h.epoch_mem_iff
  have hslot := h.slot
  cases hcurrent : loader.current with
  | absent =>
    rw [if_neg fun hin => hmem.mp hin hcurrent, Loader.load_of_absent hcurrent] at hload ⊢
    have hwait : (LoadCall.waiting loader.started.length).Fits endings loader.spawn.package
        loader.spawn.release (busy ++ [loader.epoch]) loader.epoch := by
      rw [← List.length_map Acquisition.epoch, h.started, LoadCall.Fits,
        List.getElem?_concat_length]
    exact hwait.poll hload
  | loading i =>
    rw [hcurrent] at hslot
    obtain ⟨channel, hi, -⟩ := hslot
    rw [if_pos (hmem.mpr (by simp [hcurrent])), Loader.load_of_loading hcurrent]
    have hwait : (LoadCall.waiting i).Fits endings loader.package loader.release busy
        loader.epoch := h.busy_of_started hi
    exact hwait.poll h
  | settled outcome =>
    rw [if_pos (hmem.mpr (by simp [hcurrent])), Loader.load_of_settled hcurrent]
    exact h.result_of_settled hcurrent

end LoadCall.Fits

namespace Traffic

variable {epochs : List Nat} {s : Traffic}

theorem fits_start : (start package release).Fits endings package release [] where
  loader := Loader.fits_new package release
  package_eq := rfl
  release_eq := rfl
  length := rfl
  calls := fun k epoch call h => by simp at h

namespace Fits

/-- What happens to one load keeps what holds of all. -/
theorem modify (h : s.Fits endings package release epochs) {change : LoadCall → LoadCall}
    (hchange : ∀ epoch call, LoadCall.Fits endings package release epochs.eraseDups epoch call →
      LoadCall.Fits endings package release epochs.eraseDups epoch (change call)) (k : Nat) :
    Traffic.Fits endings package release epochs { s with calls := s.calls.modify k change } where
  loader := h.loader
  package_eq := h.package_eq
  release_eq := h.release_eq
  length := by rw [List.length_modify, h.length]
  calls := by
    intro j epoch call hepoch hcall
    rw [List.getElem?_modify] at hcall
    obtain ⟨old, hold, rfl⟩ := Option.map_eq_some_iff.mp hcall
    have hfits := h.calls j epoch old hepoch hold
    split
    · exact hchange epoch old hfits
    · exact hfits

/-- A change of the loader that starts nothing keeps what holds of the loads. -/
theorem withLoader (h : s.Fits endings package release epochs) {loader : Loader}
    (hloader : loader.Fits endings epochs.eraseDups) (hpackage : loader.package = package)
    (hrelease : loader.release = release) :
    Traffic.Fits endings package release epochs { s with loader } :=
  ⟨hloader, hpackage, hrelease, h.length, h.calls⟩

theorem load (h : s.Fits endings package release epochs) :
    (s.step endings .load).Fits endings package release (epochs ++ [s.loader.epoch]) := by
  have hbusy := eraseDups_concat epochs s.loader.epoch
  refine ⟨?_, ?_, ?_, ?_, ?_⟩
  · rw [hbusy]
    exact h.loader.load
  · exact s.loader.package_load.trans h.package_eq
  · exact s.loader.release_load.trans h.release_eq
  · simp [step, h.length]
  · intro k epoch call hepoch hcall
    rw [step] at hcall
    by_cases hk : k < epochs.length
    · rw [List.getElem?_append_left hk] at hepoch
      rw [List.getElem?_append_left (h.length ▸ hk)] at hcall
      refine (h.calls k epoch call hepoch hcall).mono ?_
      rw [List.eraseDups_append]
      exact List.prefix_append _ _
    · -- the new load
      rw [List.getElem?_append_right (Nat.le_of_not_lt hk)] at hepoch
      rw [List.getElem?_append_right (h.length ▸ Nat.le_of_not_lt hk)] at hcall
      cases List.mem_singleton.mp (List.mem_of_getElem? hepoch)
      cases List.mem_singleton.mp (List.mem_of_getElem? hcall)
      have hjoined := LoadCall.Fits.ofJoined h.loader
      rwa [h.package_eq, h.release_eq, ← hbusy] at hjoined

/-- One event keeps what holds of traffic; only a load adds an epoch. -/
theorem step (h : s.Fits endings package release epochs) (event : Event) :
    (s.step endings event).Fits endings package release
      (epochs ++ loadEpochs s.loader.epoch [event]) := by
  cases event with
  | load => exact h.load
  | resume k =>
    rw [loadEpochs_of_ne_load (by simp), List.append_nil]
    refine h.modify (fun epoch call hcall => ?_) k
    rw [← h.package_eq, ← h.release_eq] at hcall ⊢
    exact hcall.poll h.loader
  | cancel k =>
    rw [loadEpochs_of_ne_load (by simp), List.append_nil]
    exact h.modify (fun epoch call hcall => hcall.cancel) k
  | invalidate =>
    rw [loadEpochs_of_ne_load (by simp), List.append_nil]
    exact h.withLoader h.loader.invalidate h.package_eq h.release_eq
  | ended i =>
    rw [loadEpochs_of_ne_load (by simp), List.append_nil]
    exact h.withLoader (h.loader.finish i) ((s.loader.package_finish i _).trans h.package_eq)
      ((s.loader.release_finish i _).trans h.release_eq)

/-- A run keeps what holds of traffic; its loads add their epochs. -/
theorem run (h : s.Fits endings package release epochs) (events : List Event) :
    (s.run endings events).Fits endings package release
      (epochs ++ loadEpochs s.loader.epoch events) := by
  induction events generalizing s epochs with
  | nil =>
    rw [loadEpochs, List.append_nil]
    exact h
  | cons event rest ih =>
    have hrest := ih (h.step event)
    rwa [epoch_step, List.append_assoc, ← loadEpochs_cons] at hrest

/-- There are as many acquisitions as epochs with a load. -/
theorem acquisitions_eq (h : s.Fits endings package release epochs) :
    s.loader.acquisitions = epochs.toFinset.card := by
  have hsame : epochs.eraseDups.toFinset = epochs.toFinset := by
    ext epoch
    rw [List.mem_toFinset, List.mem_toFinset, List.mem_eraseDups]
  rw [h.loader.counted, ← hsame, List.toFinset_card_of_nodup h.loader.distinct]

/-- At most one acquisition is started between two invalidations. -/
theorem acquisitions_run_le (h : s.Fits endings package release epochs) {span : List Event}
    (hspan : .invalidate ∉ span) :
    (s.run endings span).loader.acquisitions ≤ s.loader.acquisitions + 1 := by
  rw [(h.run span).acquisitions_eq, h.acquisitions_eq]
  have hsub : (epochs ++ loadEpochs s.loader.epoch span).toFinset ⊆
      insert s.loader.epoch epochs.toFinset := by
    intro epoch hmem
    rw [List.mem_toFinset, List.mem_append] at hmem
    rw [Finset.mem_insert, List.mem_toFinset]
    rcases hmem with hmem | hmem
    · exact .inr hmem
    · exact .inl (eq_of_mem_loadEpochs hspan hmem)
  exact (Finset.card_le_card hsub).trans (Finset.card_insert_le _ _)

/-- Every load has its epoch. -/
theorem exists_epoch (h : s.Fits endings package release epochs) {k : Nat} {call : LoadCall}
    (hcall : s.calls[k]? = some call) :
    ∃ epoch, epochs[k]? = some epoch ∧
      call.Fits endings package release epochs.eraseDups epoch := by
  have hk : k < epochs.length := h.length ▸ (List.getElem?_eq_some_iff.mp hcall).1
  have hepoch : epochs[k]? = some epochs[k] := List.getElem?_eq_getElem hk
  exact ⟨_, hepoch, h.calls k _ call hepoch hcall⟩

/-- No wake-up is lost: a load that waits returns when it is resumed after the end of the
acquisition it waits for. -/
theorem resume_after_end (h : s.Fits endings package release epochs) {k i epoch : Nat}
    (hcall : s.calls[k]? = some (.waiting i)) (hbusy : epochs.eraseDups[i]? = some epoch) :
    (s.run endings [.ended i, .resume k]).calls[k]? =
      some (.returned ((endings i).reply package release epoch)) := by
  have hreceived := h.loader.received?_finish hbusy
  rw [h.package_eq, h.release_eq] at hreceived
  simp [Traffic.run, Traffic.step, hcall, LoadCall.poll, hreceived]

end Fits

/-- **Single flight.** In every run of a loader:

* the acquisitions that were started are one for each epoch with a load, in the order of the
  epochs, and this is what the loader counts;
* from any point on, no more than one is started up to the next invalidation;
* a load that has returned got the reply of the acquisition of the epoch in which it came,
  whatever was invalidated since;
* a load that waits, waits for that acquisition and gets its reply when resumed after its end.

The reply to an acquisition that was abandoned says so. -/
theorem single_flight (package : String) (release : Release) (endings : Nat → Ending)
    (events : List Event) :
    let s := (start package release).run endings events
    let epochs := loadEpochs 0 events
    s.loader.started.map Acquisition.epoch = epochs.eraseDups ∧
    s.loader.acquisitions = epochs.toFinset.card ∧
    (∀ span, .invalidate ∉ span →
      (s.run endings span).loader.acquisitions ≤ s.loader.acquisitions + 1) ∧
    (∀ (k : Nat) result, s.calls[k]? = some (.returned result) →
      ∃ i epoch : Nat, epochs[k]? = some epoch ∧ epochs.eraseDups[i]? = some epoch ∧
        result = (endings i).reply package release epoch) ∧
    (∀ k i : Nat, s.calls[k]? = some (.waiting i) →
      ∃ epoch : Nat, epochs[k]? = some epoch ∧ epochs.eraseDups[i]? = some epoch ∧
        (s.run endings [.ended i, .resume k]).calls[k]? =
          some (.returned ((endings i).reply package release epoch))) ∧
    LoadCause.abandoned.message = "engine acquisition task ended without a result" := by
  intro s epochs
  have h : s.Fits endings package release epochs := fits_start.run events
  refine ⟨h.loader.started, h.acquisitions_eq, fun span => h.acquisitions_run_le, ?_, ?_, rfl⟩
  · intro k result hcall
    obtain ⟨epoch, hepoch, i, hbusy, hresult⟩ := h.exists_epoch hcall
    exact ⟨i, epoch, hepoch, hbusy, hresult⟩
  · intro k i hcall
    obtain ⟨epoch, hepoch, hbusy⟩ := h.exists_epoch hcall
    exact ⟨epoch, hepoch, hbusy, h.resume_after_end hcall hbusy⟩

/-- A load outlives two invalidations and a second acquisition, and gets what its own failed
with. -/
example (package : String) (release : Release) (first second : LoadCause) :
    ((start package release).run (fun i => if i = 0 then .failed first else .failed second)
      [.load, .invalidate, .load, .ended 1, .invalidate, .ended 0, .resume 0, .resume 1]).calls =
      [.returned (.error (.engineLoad package first)),
       .returned (.error (.engineLoad package second))] := rfl

end Traffic

end Arboretum
