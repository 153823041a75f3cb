import Arboretum.Engine.Loader
import Mathlib.Data.List.Nodup

/-!
# The acquisitions of a loader

What holds of a loader through loads, endings and invalidations (`Loader.Fits`): it has started
one acquisition for each epoch in a list, the channel of each is silent or tells how it ended, and
the current slot agrees with the acquisition of the current epoch.

* `Fits.load`, `Fits.finish`, `Fits.invalidate`: each operation keeps it, and only a load in an
  epoch without acquisition lengthens the list.
* `Fits.received?`, `Fits.received?_finish`: what is to be seen at the channel of an acquisition
  is the reply to how it ended, and after its end it is there.
* `Fits.finish_current`, `current_finish_of_ne`: an ending moves the current slot from loading to
  settled or not at all, and that of an acquisition of another epoch does not move it.
-/

namespace Arboretum

/-- What a load returns when the acquisition of its epoch ends so. -/
def Ending.reply (package : String) (release : Release) (epoch : Nat) :
    Ending → Except Error Handle
  | .acquired engine => .ok ⟨release, epoch, engine⟩
  | .failed cause => .error (.engineLoad package cause)
  | .abandoned => .error (.engineLoad package .abandoned)

/-- What is seen at the channel of an acquisition that has ended. -/
def Ending.channel (release : Release) (epoch : Nat) (ending : Ending) : Channel :=
  match ending.outcome? release epoch with
  | some outcome => .sent outcome
  | none => .closed

theorem Ending.channel_ne_silent (release : Release) (epoch : Nat) (ending : Ending) :
    ending.channel release epoch ≠ .silent := by
  unfold channel
  split <;> simp

/-- The slot of an epoch agrees with the acquisitions that were started. -/
def Slot.Fits (started : List Acquisition) (epoch : Nat) : Slot → Prop
  | .absent => ∀ acquisition ∈ started, acquisition.epoch ≠ epoch
  | .loading i => ∃ channel : Channel, started[i]? = some ⟨epoch, channel⟩ ∧ ∀ o, channel ≠ .sent o
  | .settled o => ∃ i : Nat, started[i]? = some ⟨epoch, .sent o⟩

/-- The slot of an epoch depends on the acquisitions of that epoch only. -/
theorem Slot.Fits.congr {started other : List Acquisition} {epoch : Nat} {slot : Slot}
    (h : slot.Fits started epoch)
    (hsame : ∀ (i : Nat) acquisition, acquisition.epoch = epoch →
      (started[i]? = some acquisition ↔ other[i]? = some acquisition)) :
    slot.Fits other epoch := by
  cases slot with
  | absent =>
    intro acquisition hmem hepoch
    obtain ⟨i, hi⟩ := List.mem_iff_getElem?.mp hmem
    exact h acquisition (List.mem_of_getElem? ((hsame i acquisition hepoch).mpr hi)) hepoch
  | loading i =>
    obtain ⟨channel, hi, hne⟩ := h
    exact ⟨channel, (hsame i _ rfl).mp hi, hne⟩
  | settled outcome =>
    obtain ⟨i, hi⟩ := h
    exact ⟨i, (hsame i _ rfl).mp hi⟩

/-- **A loader that has started one acquisition for each of some epochs**, in this order, of which
the `i`-th ends as `endings i` says. -/
structure Loader.Fits (endings : Nat → Ending) (busy : List Nat) (loader : Loader) : Prop where
  started : loader.started.map Acquisition.epoch = busy
  counted : loader.acquisitions = busy.length
  distinct : busy.Nodup
  past : ∀ epoch ∈ busy, epoch ≤ loader.epoch
  channel : ∀ i epoch channel, loader.started[i]? = some ⟨epoch, channel⟩ →
    channel = .silent ∨ channel = (endings i).channel loader.release epoch
  slot : loader.current.Fits loader.started loader.epoch

namespace Loader

variable {endings : Nat → Ending} {busy : List Nat} {loader : Loader}

theorem fits_new (package : String) (release : Release) :
    (Loader.new package release).Fits endings [] where
  started := rfl
  counted := rfl
  distinct := List.nodup_nil
  past := fun _ h => absurd h List.not_mem_nil
  channel := fun _ _ _ h => by simp [new] at h
  slot := by
    intro acquisition h
    exact absurd h List.not_mem_nil

/-! ## What the operations change -/

theorem load_of_absent (h : loader.current = .absent) :
    loader.load = (loader.spawn, .waits loader.started.length) := by
  rw [load, h]

theorem load_of_loading {i : Nat} (h : loader.current = .loading i) :
    loader.load = (loader, .waits i) := by
  rw [load, h]

theorem load_of_settled {outcome : Outcome} (h : loader.current = .settled outcome) :
    loader.load = (loader, .returned outcome) := by
  rw [load, h]

/-- A load that has to wait leaves the slot loading. -/
theorem current_load_of_waits {i : Nat} (h : loader.load.2 = .waits i) :
    loader.load.1.current = .loading i := by
  cases hcurrent : loader.current with
  | absent =>
    rw [load_of_absent hcurrent] at h ⊢
    cases h
    rfl
  | loading j =>
    rw [load_of_loading hcurrent] at h ⊢
    cases h
    exact hcurrent
  | settled outcome =>
    rw [load_of_settled hcurrent] at h
    cases h

@[simp] theorem package_load (loader : Loader) : loader.load.1.package = loader.package := by
  unfold load
  split <;> rfl

@[simp] theorem release_load (loader : Loader) : loader.load.1.release = loader.release := by
  unfold load
  split <;> rfl

@[simp] theorem epoch_load (loader : Loader) : loader.load.1.epoch = loader.epoch := by
  unfold load
  split <;> rfl

@[simp] theorem package_invalidate (loader : Loader) :
    loader.invalidate.package = loader.package := rfl

@[simp] theorem release_invalidate (loader : Loader) :
    loader.invalidate.release = loader.release := rfl

@[simp] theorem epoch_invalidate (loader : Loader) :
    loader.invalidate.epoch = loader.epoch + 1 := by
  unfold invalidate epoch
  rw [List.length_append]
  rfl

theorem epoch_settle (loader : Loader) (epoch : Nat) (outcome : Outcome) :
    (loader.settle epoch outcome).epoch = loader.epoch := by
  unfold settle
  split
  · rfl
  · exact List.length_set

/-- The ending of an acquisition that does not run changes nothing. -/
theorem finish_of_not_running {i : Nat} (h : ∀ epoch, loader.started[i]? ≠ some ⟨epoch, .silent⟩)
    (ending : Ending) : loader.finish i ending = loader := by
  unfold finish
  split
  · rename_i epoch hrun
    exact absurd hrun (h epoch)
  · rfl

/-- The ending of an acquisition that runs: its outcome is put into the slot of its epoch, if there
is one, and shown at its channel. -/
theorem finish_of_running {i epoch : Nat} (h : loader.started[i]? = some ⟨epoch, .silent⟩)
    (ending : Ending) :
    loader.finish i ending =
      (((ending.outcome? loader.release epoch).map (loader.settle epoch)).getD loader).publish i
        (ending.channel loader.release epoch) := by
  simp only [finish, h, Ending.channel]
  cases ending.outcome? loader.release epoch with
  | none => rfl
  | some outcome => rfl

/-- An acquisition ends if it runs. -/
theorem finish_cases (loader : Loader) (i : Nat) (ending : Ending) :
    loader.finish i ending = loader ∨ ∃ epoch, loader.started[i]? = some ⟨epoch, .silent⟩ := by
  by_cases h : ∃ epoch, loader.started[i]? = some ⟨epoch, .silent⟩
  · exact .inr h
  · exact .inl (finish_of_not_running (not_exists.mp h) ending)

theorem started_publish (loader : Loader) (i j : Nat) (channel : Channel) :
    (loader.publish i channel).started[j]? =
      loader.started[j]?.map fun a => if i = j then { a with channel } else a := by
  unfold publish
  rw [List.getElem?_modify]
  rfl

theorem started_settle (loader : Loader) (epoch : Nat) (outcome : Outcome) :
    (loader.settle epoch outcome).started = loader.started := by
  unfold settle
  split <;> rfl

theorem current_settle (loader : Loader) (epoch : Nat) (outcome : Outcome) :
    (loader.settle epoch outcome).current =
      if epoch = loader.epoch then .settled outcome else loader.current := by
  unfold settle
  split <;> rfl

/-- An ending leaves all but the slots and the channels. -/
theorem finish_keeps (loader : Loader) (i : Nat) (ending : Ending) :
    (loader.finish i ending).package = loader.package ∧
      (loader.finish i ending).release = loader.release ∧
      (loader.finish i ending).epoch = loader.epoch ∧
      (loader.finish i ending).acquisitions = loader.acquisitions := by
  rcases loader.finish_cases i ending with h | ⟨epoch, h⟩
  · rw [h]
    exact ⟨rfl, rfl, rfl, rfl⟩
  · rw [finish_of_running h]
    cases ending.outcome? loader.release epoch with
    | none => exact ⟨rfl, rfl, rfl, rfl⟩
    | some outcome =>
      refine ⟨?_, ?_, epoch_settle loader epoch outcome, ?_⟩
      all_goals
        simp only [Option.map_some, Option.getD_some, publish, settle]
        split <;> rfl

@[simp] theorem package_finish (loader : Loader) (i : Nat) (ending : Ending) :
    (loader.finish i ending).package = loader.package := (loader.finish_keeps i ending).1

@[simp] theorem release_finish (loader : Loader) (i : Nat) (ending : Ending) :
    (loader.finish i ending).release = loader.release := (loader.finish_keeps i ending).2.1

@[simp] theorem epoch_finish (loader : Loader) (i : Nat) (ending : Ending) :
    (loader.finish i ending).epoch = loader.epoch := (loader.finish_keeps i ending).2.2.1

@[simp] theorem acquisitions_finish (loader : Loader) (i : Nat) (ending : Ending) :
    (loader.finish i ending).acquisitions = loader.acquisitions :=
  (loader.finish_keeps i ending).2.2.2

theorem started_finish_of_running {i epoch : Nat}
    (h : loader.started[i]? = some ⟨epoch, .silent⟩) (ending : Ending) (j : Nat) :
    (loader.finish i ending).started[j]? =
      if i = j then some ⟨epoch, ending.channel loader.release epoch⟩ else loader.started[j]? := by
  have hbase : (((ending.outcome? loader.release epoch).map (loader.settle epoch)).getD
      loader).started = loader.started := by
    cases ending.outcome? loader.release epoch with
    | none => rfl
    | some outcome => exact started_settle loader epoch outcome
  rw [finish_of_running h, started_publish, hbase]
  by_cases hij : i = j
  · subst hij
    rw [h, if_pos rfl, Option.map_some, if_pos rfl]
  · simp only [if_neg hij, Option.map_id']

/-- The other acquisitions are left. -/
theorem started_finish_of_ne {i j : Nat} (hij : i ≠ j) (ending : Ending) :
    (loader.finish i ending).started[j]? = loader.started[j]? := by
  rcases loader.finish_cases i ending with h | ⟨epoch, h⟩
  · rw [h]
  · rw [started_finish_of_running h, if_neg hij]

/-- No acquisition changes its epoch. -/
theorem epochs_finish (loader : Loader) (i : Nat) (ending : Ending) :
    (loader.finish i ending).started.map Acquisition.epoch =
      loader.started.map Acquisition.epoch := by
  rcases loader.finish_cases i ending with h | ⟨epoch, h⟩
  · rw [h]
  · apply List.ext_getElem?
    intro j
    rw [List.getElem?_map, List.getElem?_map, started_finish_of_running h]
    split
    · rename_i hij
      rw [← hij, h]
      rfl
    · rfl

theorem length_finish (loader : Loader) (i : Nat) (ending : Ending) :
    (loader.finish i ending).started.length = loader.started.length := by
  have h := congrArg List.length (epochs_finish loader i ending)
  rwa [List.length_map, List.length_map] at h

theorem exists_started_of_finish {i j : Nat} {ending : Ending} {a : Acquisition}
    (h : (loader.finish i ending).started[j]? = some a) :
    ∃ b, loader.started[j]? = some b ∧ b.epoch = a.epoch := by
  have hepoch : (loader.started.map Acquisition.epoch)[j]? = some a.epoch := by
    rw [← epochs_finish loader i ending, List.getElem?_map, h]
    rfl
  rw [List.getElem?_map] at hepoch
  exact Option.map_eq_some_iff.mp hepoch

theorem current_finish_of_running {i epoch : Nat}
    (h : loader.started[i]? = some ⟨epoch, .silent⟩) (ending : Ending) :
    (loader.finish i ending).current =
      match ending.outcome? loader.release epoch with
      | some outcome => if epoch = loader.epoch then .settled outcome else loader.current
      | none => loader.current := by
  rw [finish_of_running h]
  cases ending.outcome? loader.release epoch with
  | none => rfl
  | some outcome => exact current_settle loader epoch outcome

/-- The end of an acquisition of another epoch does not reach the current slot. -/
theorem current_finish_of_ne {i : Nat}
    (h : ∀ acquisition, loader.started[i]? = some acquisition → acquisition.epoch ≠ loader.epoch)
    (ending : Ending) : (loader.finish i ending).current = loader.current := by
  rcases loader.finish_cases i ending with hsame | ⟨epoch, hrun⟩
  · rw [hsame]
  · rw [current_finish_of_running hrun]
    split
    · rw [if_neg (h _ hrun)]
    · rfl

/-! ## What they keep -/

namespace Fits

theorem getElem?_busy (h : loader.Fits endings busy) (i : Nat) :
    busy[i]? = loader.started[i]?.map Acquisition.epoch := by
  rw [← h.started, List.getElem?_map]

theorem busy_of_started (h : loader.Fits endings busy) {i epoch : Nat} {channel : Channel}
    (hi : loader.started[i]? = some ⟨epoch, channel⟩) : busy[i]? = some epoch := by
  rw [h.getElem?_busy, hi]
  rfl

/-- Two acquisitions of one epoch are one. -/
theorem index_inj (h : loader.Fits endings busy) {i j epoch : Nat} {c d : Channel}
    (hi : loader.started[i]? = some ⟨epoch, c⟩) (hj : loader.started[j]? = some ⟨epoch, d⟩) :
    i = j := by
  have hbi := h.busy_of_started hi
  have hbj := h.busy_of_started hj
  exact (List.getElem?_inj (List.getElem?_eq_some_iff.mp hbi).1 h.distinct).mp (hbi.trans hbj.symm)

/-- The slot is loading as long as the acquisition of the current epoch has sent nothing. -/
theorem current_of_not_sent (h : loader.Fits endings busy) {i : Nat} {channel : Channel}
    (hi : loader.started[i]? = some ⟨loader.epoch, channel⟩)
    (hnot : ∀ outcome, channel ≠ .sent outcome) : loader.current = .loading i := by
  have hslot := h.slot
  cases hcurrent : loader.current with
  | absent =>
    rw [hcurrent] at hslot
    exact absurd rfl (hslot _ (List.mem_of_getElem? hi))
  | loading j =>
    rw [hcurrent] at hslot
    obtain ⟨_, hj, -⟩ := hslot
    rw [h.index_inj hi hj]
  | settled outcome =>
    rw [hcurrent] at hslot
    obtain ⟨j, hj⟩ := hslot
    rw [← h.index_inj hi hj, hi] at hj
    cases hj
    exact absurd rfl (hnot outcome)

/-- While the acquisition of the current epoch runs, the slot is loading. -/
theorem current_of_running (h : loader.Fits endings busy) {i : Nat}
    (hrun : loader.started[i]? = some ⟨loader.epoch, .silent⟩) :
    loader.current = .loading i :=
  h.current_of_not_sent hrun fun _ => by simp

/-- Once the acquisition of the current epoch has sent an outcome, the slot is settled with it. -/
theorem current_of_sent (h : loader.Fits endings busy) {i : Nat} {outcome : Outcome}
    (hi : loader.started[i]? = some ⟨loader.epoch, .sent outcome⟩) :
    loader.current = .settled outcome := by
  have hslot := h.slot
  cases hcurrent : loader.current with
  | absent =>
    rw [hcurrent] at hslot
    exact absurd rfl (hslot _ (List.mem_of_getElem? hi))
  | loading j =>
    rw [hcurrent] at hslot
    obtain ⟨channel, hj, hnot⟩ := hslot
    rw [← h.index_inj hi hj, hi] at hj
    cases hj
    exact absurd rfl (hnot outcome)
  | settled other =>
    rw [hcurrent] at hslot
    obtain ⟨j, hj⟩ := hslot
    rw [← h.index_inj hi hj, hi] at hj
    cases hj
    rfl

/-- **An ending moves the current slot only from loading to settled.** -/
theorem finish_current (h : loader.Fits endings busy) (i : Nat) (ending : Ending) :
    (loader.finish i ending).current = loader.current ∨
      loader.current = .loading i ∧ ∃ outcome,
        (loader.finish i ending).current = .settled outcome := by
  rcases loader.finish_cases i ending with hsame | ⟨epoch, hrun⟩
  · rw [hsame]
    exact .inl rfl
  · rw [current_finish_of_running hrun]
    split
    · split
      · rename_i outcome _ hepoch
        subst hepoch
        exact .inr ⟨h.current_of_running hrun, outcome, rfl⟩
      · exact .inl rfl
    · exact .inl rfl

/-- An epoch has an acquisition if its slot is not absent. -/
theorem epoch_mem_iff (h : loader.Fits endings busy) :
    loader.epoch ∈ busy ↔ loader.current ≠ .absent := by
  have hslot := h.slot
  cases hcurrent : loader.current with
  | absent =>
    rw [hcurrent] at hslot
    refine ⟨fun hin => ?_, fun hne => absurd rfl hne⟩
    obtain ⟨acquisition, hin, heq⟩ := List.mem_map.mp (h.started ▸ hin)
    exact absurd heq (hslot acquisition hin)
  | loading i =>
    rw [hcurrent] at hslot
    obtain ⟨channel, hi, -⟩ := hslot
    exact ⟨fun _ => by simp, fun _ => List.mem_of_getElem? (h.busy_of_started hi)⟩
  | settled outcome =>
    rw [hcurrent] at hslot
    obtain ⟨i, hi⟩ := hslot
    exact ⟨fun _ => by simp, fun _ => List.mem_of_getElem? (h.busy_of_started hi)⟩

theorem spawn (h : loader.Fits endings busy) (habsent : loader.epoch ∉ busy) :
    loader.spawn.Fits endings (busy ++ [loader.epoch]) where
  started := by
    rw [Loader.spawn, List.map_append, h.started]
    rfl
  counted := by
    rw [Loader.spawn, h.counted, List.length_append]
    rfl
  distinct := List.nodup_append.mpr ⟨h.distinct, List.nodup_singleton _, by
    intro a ha b hb heq
    rw [List.mem_singleton] at hb
    exact habsent (hb ▸ heq ▸ ha)⟩
  past := by
    intro epoch hmem
    rcases List.mem_append.mp hmem with hmem | hmem
    · exact h.past epoch hmem
    · exact Nat.le_of_eq (List.mem_singleton.mp hmem)
  channel := by
    intro i epoch channel hi
    rw [Loader.spawn, List.getElem?_append] at hi
    split at hi
    · exact h.channel i epoch channel hi
    · cases List.mem_singleton.mp (List.mem_of_getElem? hi)
      exact .inl rfl
  slot := ⟨.silent, by rw [Loader.spawn, List.getElem?_concat_length]; rfl, fun _ => by simp⟩

/-- A load starts the acquisition of an epoch that has none. -/
theorem load (h : loader.Fits endings busy) :
    loader.load.1.Fits endings
      (if loader.epoch ∈ busy then busy else busy ++ [loader.epoch]) := by
  have hmem := h.epoch_mem_iff
  cases hcurrent : loader.current with
  | absent =>
    have habsent : loader.epoch ∉ busy := fun hin => hmem.mp hin hcurrent
    rw [if_neg habsent, load_of_absent hcurrent]
    exact h.spawn habsent
  | loading i =>
    rw [if_pos (hmem.mpr (by simp [hcurrent])), load_of_loading hcurrent]
    exact h
  | settled outcome =>
    rw [if_pos (hmem.mpr (by simp [hcurrent])), load_of_settled hcurrent]
    exact h

theorem invalidate (h : loader.Fits endings busy) : loader.invalidate.Fits endings busy where
  started := h.started
  counted := h.counted
  distinct := h.distinct
  past := fun epoch hmem => by
    have := h.past epoch hmem
    rw [epoch_invalidate]
    omega
  channel := h.channel
  slot := by
    intro acquisition hmem heq
    have hle := h.past acquisition.epoch (h.started ▸ List.mem_map_of_mem hmem)
    rw [epoch_invalidate] at heq
    omega

/-- The current slot agrees with the acquisitions also after one of them has ended: it is settled
if the acquisition was its own and has an outcome. -/
theorem slot_finish (h : loader.Fits endings busy) {i epoch : Nat}
    (hrun : loader.started[i]? = some ⟨epoch, .silent⟩) (ending : Ending) :
    (loader.finish i ending).current.Fits (loader.finish i ending).started loader.epoch := by
  have hstarted := started_finish_of_running hrun ending
  rw [current_finish_of_running hrun]
  by_cases hepoch : epoch = loader.epoch
  · subst hepoch
    cases houtcome : ending.outcome? loader.release loader.epoch with
    | none =>
      simp only [h.current_of_running hrun]
      refine ⟨.closed, ?_, fun _ => by simp⟩
      rw [hstarted, if_pos rfl, Ending.channel, houtcome]
    | some outcome =>
      simp only [if_true]
      refine ⟨i, ?_⟩
      rw [hstarted, if_pos rfl, Ending.channel, houtcome]
  · have hkept : loader.current.Fits (loader.finish i ending).started loader.epoch := by
      refine h.slot.congr fun j a ha => ?_
      rw [hstarted]
      split
      · rename_i hij
        subst hij
        rw [hrun]
        constructor
        · rintro ⟨⟩
          exact absurd ha hepoch
        · rintro ⟨⟩
          exact absurd ha hepoch
      · exact Iff.rfl
    split
    · rw [if_neg hepoch]
      exact hkept
    · exact hkept

theorem finish (h : loader.Fits endings busy) (i : Nat) :
    (loader.finish i (endings i)).Fits endings busy := by
  rcases loader.finish_cases i (endings i) with hsame | ⟨epoch, hrun⟩
  · rw [hsame]
    exact h
  · refine ⟨(epochs_finish loader i _).trans h.started, by rw [acquisitions_finish, h.counted],
      h.distinct, by rw [epoch_finish]; exact h.past, ?_, ?_⟩
    · intro j e c hj
      rw [started_finish_of_running hrun] at hj
      rw [release_finish]
      split at hj
      · rename_i hij
        cases hj
        exact .inr (by rw [hij])
      · exact h.channel j e c hj
    · rw [epoch_finish]
      exact h.slot_finish hrun (endings i)

end Fits

/-! ## What loads return -/

/-- Those who wait for an acquisition that has ended get the reply to how it ended. -/
theorem received?_of_ended {i epoch : Nat} {ending : Ending}
    (hi : loader.started[i]? = some ⟨epoch, ending.channel loader.release epoch⟩) :
    loader.received? i = some (ending.reply loader.package loader.release epoch) := by
  cases ending with
  | acquired engine => simp [received?, hi, Ending.channel, Ending.outcome?, result, Ending.reply]
  | failed cause => simp [received?, hi, Ending.channel, Ending.outcome?, result, Ending.reply]
  | abandoned => simp [received?, hi, Ending.channel, Ending.outcome?, result, Ending.reply]

namespace Fits

theorem exists_of_getElem?_busy (h : loader.Fits endings busy) {i epoch : Nat}
    (hi : busy[i]? = some epoch) : ∃ channel, loader.started[i]? = some ⟨epoch, channel⟩ := by
  rw [h.getElem?_busy] at hi
  obtain ⟨⟨_, channel⟩, hstarted, rfl⟩ := Option.map_eq_some_iff.mp hi
  exact ⟨channel, hstarted⟩

/-- **What is received from an acquisition is the reply to how it ended.** -/
theorem received? (h : loader.Fits endings busy) {i : Nat} {result : Except Error Handle}
    (hr : loader.received? i = some result) :
    ∃ epoch, busy[i]? = some epoch ∧
      result = (endings i).reply loader.package loader.release epoch := by
  cases hi : loader.started[i]? with
  | none => simp [Loader.received?, hi] at hr
  | some acquisition =>
    obtain ⟨epoch, channel⟩ := acquisition
    refine ⟨epoch, h.busy_of_started hi, ?_⟩
    rcases h.channel i epoch channel hi with rfl | rfl
    · simp [Loader.received?, hi] at hr
    · rw [received?_of_ended hi] at hr
      exact (Option.some.inj hr).symm

/-- **Once an acquisition has ended, its reply is there to be received.** -/
theorem received?_finish (h : loader.Fits endings busy) {i epoch : Nat}
    (hi : busy[i]? = some epoch) :
    (loader.finish i (endings i)).received? i =
      some ((endings i).reply loader.package loader.release epoch) := by
  obtain ⟨channel, hstarted⟩ := h.exists_of_getElem?_busy hi
  rcases h.channel i epoch channel hstarted with rfl | rfl
  · have hended := started_finish_of_running hstarted (endings i) i
    rw [if_pos rfl, ← release_finish loader i (endings i)] at hended
    rw [received?_of_ended hended, package_finish, release_finish]
  · rw [finish_of_not_running, received?_of_ended hstarted]
    intro e he
    rw [hstarted] at he
    exact Ending.channel_ne_silent _ _ _ (congrArg Acquisition.channel (Option.some.inj he))

/-- A settled slot holds the outcome of the acquisition of its epoch. -/
theorem result_of_settled (h : loader.Fits endings busy) {outcome : Outcome}
    (hcurrent : loader.current = .settled outcome) :
    ∃ i : Nat, busy[i]? = some loader.epoch ∧
      loader.result outcome = (endings i).reply loader.package loader.release loader.epoch := by
  have hslot := h.slot
  rw [hcurrent] at hslot
  obtain ⟨i, hi⟩ := hslot
  have hr : loader.received? i = some (loader.result outcome) := by
    simp [Loader.received?, hi]
  obtain ⟨epoch, hbusy, hresult⟩ := h.received? hr
  have hepoch := h.busy_of_started hi
  cases hbusy.symm.trans hepoch
  exact ⟨i, hepoch, hresult⟩

end Fits

end Loader

end Arboretum
