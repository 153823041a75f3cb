import Arboretum.Proofs.SingleFlight

/-!
# What a loader shows of the acquisition in flight

A loader shows as loading while the acquisition of its epoch runs. One that ends with an engine or
with a failure settles the slot, and the loader shows as loaded or failed from then on. One that
ends without an outcome leaves the slot as it is: the loader goes on showing as loading although
nothing runs, and every load of the epoch fails.

* `Traffic.StartedFor`, `Traffic.HasEnded`: which acquisitions a run has started and which of them
  have ended, read off its events alone.
* `Traffic.channel_run`: the channel of an acquisition is silent until it has ended, and from then
  on tells how.
* `Traffic.loading_iff`: when a loader shows as loading.
* `Traffic.returned_after_end`: what loads return, by how the acquisition of the epoch has ended.
* `Traffic.loading_after_abandoned`: a run after which a loader shows as loading with nothing in
  flight.
-/

namespace Arboretum

variable {endings : Nat → Ending} {package : String} {release : Release}

/-- What a list has after a part with a property it has without its last element, or this is it. -/
theorem exists_split_concat {α : Type} (P : List α → Prop) (xs : List α) (x y : α) :
    (∃ before after, xs ++ [x] = before ++ y :: after ∧ P before) ↔
      (∃ before after, xs = before ++ y :: after ∧ P before) ∨ x = y ∧ P xs := by
  constructor
  · rintro ⟨before, after, hsplit, hbefore⟩
    rcases List.eq_nil_or_concat after with rfl | ⟨after, last, rfl⟩
    · obtain ⟨rfl, hlast⟩ := List.append_inj' hsplit rfl
      exact .inr ⟨List.singleton_inj.mp hlast, hbefore⟩
    · rw [List.concat_eq_append, ← List.cons_append, ← List.append_assoc] at hsplit
      obtain ⟨rfl, -⟩ := List.append_inj' hsplit rfl
      exact .inl ⟨before, after, rfl, hbefore⟩
  · rintro (⟨before, after, rfl, hbefore⟩ | ⟨rfl, hxs⟩)
    · exact ⟨before, after ++ [x], by simp, hbefore⟩
    · exact ⟨xs, [], rfl, hxs⟩

namespace Traffic

/-! ## Which acquisitions were started and which have ended -/

/-- The `i`-th acquisition was started, for an epoch: that is the `i`-th epoch with a load. -/
def StartedFor (events : List Event) (i epoch : Nat) : Prop :=
  (loadEpochs 0 events).eraseDups[i]? = some epoch

/-- The `i`-th acquisition has ended: its end came at a time when it was started. -/
def HasEnded (events : List Event) (i : Nat) : Prop :=
  ∃ before after epoch, events = before ++ .ended i :: after ∧ StartedFor before i epoch

theorem loadEpochs_append (epoch : Nat) (events more : List Event) :
    loadEpochs epoch (events ++ more) =
      loadEpochs epoch events ++ loadEpochs (epoch + events.count .invalidate) more := by
  induction events generalizing epoch with
  | nil => rfl
  | cons event rest ih =>
    have hcount : (event :: rest).count .invalidate =
        [event].count .invalidate + rest.count .invalidate := by
      rw [← List.count_append, List.singleton_append]
    rw [List.cons_append, loadEpochs_cons, ih, loadEpochs_cons epoch event rest, List.append_assoc,
      hcount, Nat.add_assoc]

theorem StartedFor.append {events : List Event} {i epoch : Nat} (h : StartedFor events i epoch)
    (more : List Event) : StartedFor (events ++ more) i epoch := by
  unfold StartedFor at h ⊢
  rw [loadEpochs_append, List.eraseDups_append,
    List.getElem?_append_left (List.getElem?_eq_some_iff.mp h).1, h]

theorem hasEnded_concat {events : List Event} {event : Event} {i : Nat} :
    HasEnded (events ++ [event]) i ↔
      HasEnded events i ∨ event = .ended i ∧ ∃ epoch, StartedFor events i epoch := by
  have hsplit := exists_split_concat (fun before => ∃ epoch, StartedFor before i epoch) events event
    (.ended i)
  simpa only [HasEnded, exists_and_left] using hsplit

theorem HasEnded.append {events : List Event} {i : Nat} (h : HasEnded events i)
    (more : List Event) : HasEnded (events ++ more) i := by
  obtain ⟨before, after, epoch, rfl, hstarted⟩ := h
  exact ⟨before, after ++ more, epoch, by simp, hstarted⟩

/-! ## Channels -/

theorem fits_run (package : String) (release : Release) (endings : Nat → Ending)
    (events : List Event) :
    ((start package release).run endings events).Fits endings package release
      (loadEpochs 0 events) :=
  fits_start.run events

theorem epoch_run (package : String) (release : Release) (endings : Nat → Ending)
    (events : List Event) :
    ((start package release).run endings events).loader.epoch = events.count .invalidate := by
  induction events using List.reverseRecOn with
  | nil => rfl
  | append_singleton events event ih => rw [run_concat, epoch_step, ih, List.count_append]

/-- Only its own end changes an acquisition. -/
theorem started_step_of_ne {s : Traffic} {i : Nat} {acquisition : Acquisition}
    (h : s.loader.started[i]? = some acquisition) {event : Event} (hevent : event ≠ .ended i) :
    (s.step endings event).loader.started[i]? = some acquisition := by
  cases event with
  | load =>
    have hlt : i < s.loader.started.length := (List.getElem?_eq_some_iff.mp h).1
    cases hcurrent : s.loader.current with
    | absent =>
      rw [step, Loader.load_of_absent hcurrent, Loader.spawn, List.getElem?_append_left hlt, h]
    | loading j => rw [step, Loader.load_of_loading hcurrent, h]
    | settled outcome => rw [step, Loader.load_of_settled hcurrent, h]
  | resume k => exact h
  | cancel k => exact h
  | invalidate => exact h
  | ended j =>
    have hne : j ≠ i := fun heq => hevent (heq ▸ rfl)
    exact (Loader.started_finish_of_ne hne (endings j)).trans h

/-- The end of an acquisition is to be seen at its channel, and stays so. -/
theorem Fits.started_step_ended {s : Traffic} {epochs : List Nat}
    (h : s.Fits endings package release epochs) {i epoch : Nat} {channel : Channel}
    (hi : s.loader.started[i]? = some ⟨epoch, channel⟩) :
    (s.step endings (.ended i)).loader.started[i]? =
      some ⟨epoch, (endings i).channel release epoch⟩ := by
  rw [← h.release_eq]
  rcases h.loader.channel i epoch channel hi with rfl | rfl
  · exact (Loader.started_finish_of_running hi (endings i) i).trans (if_pos rfl)
  · rw [Traffic.step, Loader.finish_of_not_running, hi]
    intro e he
    rw [hi] at he
    exact Ending.channel_ne_silent _ _ _ (congrArg Acquisition.channel (Option.some.inj he))

/-- A new acquisition is one that a load has just started; its channel is silent. -/
theorem started_step_new {s : Traffic} {i : Nat} {event : Event} {acquisition : Acquisition}
    (hnone : s.loader.started[i]? = none)
    (h : (s.step endings event).loader.started[i]? = some acquisition) :
    event = .load ∧ acquisition.channel = .silent := by
  cases event with
  | load =>
    refine ⟨rfl, ?_⟩
    cases hcurrent : s.loader.current with
    | absent =>
      rw [step, Loader.load_of_absent hcurrent, Loader.spawn,
        List.getElem?_append_right (List.getElem?_eq_none_iff.mp hnone)] at h
      rw [List.mem_singleton.mp (List.mem_of_getElem? h)]
    | loading j =>
      rw [step, Loader.load_of_loading hcurrent, hnone] at h
      cases h
    | settled outcome =>
      rw [step, Loader.load_of_settled hcurrent, hnone] at h
      cases h
  | resume k => exact absurd (hnone.symm.trans h) (by simp)
  | cancel k => exact absurd (hnone.symm.trans h) (by simp)
  | invalidate => exact absurd (hnone.symm.trans h) (by simp)
  | ended j =>
    obtain ⟨old, hold, -⟩ := Loader.exists_started_of_finish h
    exact absurd (hnone.symm.trans hold) (by simp)

/-- **A channel is silent until the end of its acquisition**, and from then on tells how it
ended. -/
theorem channel_run (package : String) (release : Release) (endings : Nat → Ending)
    (events : List Event) {i epoch : Nat} (hi : StartedFor events i epoch) :
    ∃ channel, ((start package release).run endings events).loader.started[i]? =
        some ⟨epoch, channel⟩ ∧
      (HasEnded events i ∧ channel = (endings i).channel release epoch ∨
        ¬ HasEnded events i ∧ channel = .silent) := by
  induction events using List.reverseRecOn generalizing epoch with
  | nil => simp [StartedFor, loadEpochs] at hi
  | append_singleton events event ih =>
    have hfits := fits_run package release endings events
    obtain ⟨channel, hchannel⟩ := (fits_run package release endings
      (events ++ [event])).loader.exists_of_getElem?_busy hi
    rw [run_concat] at hchannel ⊢
    cases hold : ((start package release).run endings events).loader.started[i]? with
    | none =>
      have hnot : ∀ e, ¬ StartedFor events i e := by
        intro e he
        obtain ⟨c, hc⟩ := hfits.loader.exists_of_getElem?_busy he
        rw [hold] at hc
        cases hc
      obtain ⟨rfl, rfl⟩ := started_step_new hold hchannel
      refine ⟨_, hchannel, .inr ⟨?_, rfl⟩⟩
      rw [hasEnded_concat]
      rintro (⟨before, after, e, rfl, he⟩ | ⟨h, -⟩)
      · exact hnot e (he.append _)
      · cases h
    | some acquisition =>
      obtain ⟨e, c⟩ := acquisition
      have he : StartedFor events i e := hfits.loader.busy_of_started hold
      obtain rfl : e = epoch := Option.some.inj ((he.append [event]).symm.trans hi)
      by_cases hevent : event = .ended i
      · subst hevent
        exact ⟨_, hfits.started_step_ended hold,
          .inl ⟨hasEnded_concat.mpr (.inr ⟨rfl, e, he⟩), rfl⟩⟩
      · obtain ⟨c', hc', hcases⟩ := ih he
        have hended : HasEnded (events ++ [event]) i ↔ HasEnded events i := by
          rw [hasEnded_concat]
          exact or_iff_left fun h => hevent h.1
        rw [hended]
        exact ⟨c', started_step_of_ne hc' hevent, hcases⟩

/-! ## What is shown -/

end Traffic

/-- What a loader shows once the acquisition of its epoch has ended so. -/
def Ending.shown : Ending → LoadState
  | .acquired _ => .loaded
  | .failed _ => .failed
  | .abandoned => .loading

namespace Loader.Fits

variable {loader : Loader} {busy : List Nat} {i : Nat}

/-- The slot after the end of the acquisition of the current epoch. -/
theorem current_of_ended (h : loader.Fits endings busy) {ending : Ending}
    (hi : loader.started[i]? = some ⟨loader.epoch, ending.channel loader.release loader.epoch⟩) :
    loader.current =
      match ending.outcome? loader.release loader.epoch with
      | some outcome => .settled outcome
      | none => .loading i := by
  cases ending with
  | acquired engine => exact h.current_of_sent hi
  | failed cause => exact h.current_of_sent hi
  | abandoned => exact h.current_of_not_sent hi fun _ => by simp [Ending.channel, Ending.outcome?]

theorem state_of_ended (h : loader.Fits endings busy) {ending : Ending}
    (hi : loader.started[i]? = some ⟨loader.epoch, ending.channel loader.release loader.epoch⟩) :
    loader.state = ending.shown := by
  rw [Loader.state, h.current_of_ended hi]
  cases ending <;> rfl

/-- A load after the end of the acquisition of the current epoch gets its reply at once. -/
theorem load_of_ended (h : loader.Fits endings busy) {ending : Ending}
    (hi : loader.started[i]? = some ⟨loader.epoch, ending.channel loader.release loader.epoch⟩) :
    loader.load.1 = loader ∧ LoadCall.ofJoined loader.load.1 loader.load.2 =
      .returned (ending.reply loader.package loader.release loader.epoch) := by
  have hcurrent := h.current_of_ended hi
  cases ending with
  | acquired engine =>
    rw [Loader.load_of_settled hcurrent]
    exact ⟨rfl, rfl⟩
  | failed cause =>
    rw [Loader.load_of_settled hcurrent]
    exact ⟨rfl, rfl⟩
  | abandoned =>
    rw [Loader.load_of_loading hcurrent]
    refine ⟨rfl, ?_⟩
    rw [LoadCall.ofJoined, LoadCall.poll, Loader.received?_of_ended hi]

end Loader.Fits

namespace Traffic

/-- The loader of a run, when the acquisition of the current epoch has ended. -/
theorem started_of_ended {events : List Event} {i : Nat}
    (hstarted : StartedFor events i (events.count .invalidate)) (hended : HasEnded events i) :
    let loader := ((start package release).run endings events).loader
    loader.started[i]? = some ⟨loader.epoch, (endings i).channel loader.release loader.epoch⟩ := by
  intro loader
  obtain ⟨channel, hi, ⟨-, rfl⟩ | ⟨hnot, -⟩⟩ := channel_run package release endings events hstarted
  · rw [epoch_run, (fits_run package release endings events).release_eq]
    exact hi
  · exact absurd hended hnot

/-- **When a loader shows as loading**: while the acquisition of its epoch runs, and after it has
ended without an outcome. -/
theorem loading_iff (package : String) (release : Release) (endings : Nat → Ending)
    (events : List Event) :
    ((start package release).run endings events).loader.state = .loading ↔
      ∃ i, StartedFor events i (events.count .invalidate) ∧
        (¬ HasEnded events i ∨ endings i = .abandoned) := by
  have hfits := fits_run package release endings events
  have hepoch := epoch_run package release endings events
  constructor
  · intro hstate
    have hslot := hfits.loader.slot
    cases hcurrent : ((start package release).run endings events).loader.current with
    | absent => simp [Loader.state, hcurrent, Slot.state] at hstate
    | loading i =>
      rw [hcurrent, hepoch] at hslot
      obtain ⟨channel, hi, -⟩ := hslot
      have hstarted : StartedFor events i (events.count .invalidate) :=
        hfits.loader.busy_of_started hi
      refine ⟨i, hstarted, ?_⟩
      by_cases hended : HasEnded events i
      · have hshown := hfits.loader.state_of_ended (started_of_ended hstarted hended)
        rw [hstate] at hshown
        cases hending : endings i with
        | abandoned => exact .inr rfl
        | acquired engine => simp [hending, Ending.shown] at hshown
        | failed cause => simp [hending, Ending.shown] at hshown
      · exact .inl hended
    | settled outcome => cases outcome <;> simp [Loader.state, hcurrent, Slot.state] at hstate
  · rintro ⟨i, hstarted, hrunning⟩
    by_cases hended : HasEnded events i
    · rw [hfits.loader.state_of_ended (started_of_ended hstarted hended),
        hrunning.resolve_left (fun hnot => hnot hended)]
      rfl
    · obtain ⟨channel, hi, ⟨h, -⟩ | ⟨-, rfl⟩⟩ := channel_run package release endings events hstarted
      · exact absurd h hended
      · rw [← hepoch] at hi
        rw [Loader.state, hfits.loader.current_of_running hi]
        rfl

/-- Loads that come in an epoch after the end of its acquisition have all got its reply. -/
theorem returned_after_end {events : List Event} {i : Nat}
    (hstarted : StartedFor events i (events.count .invalidate)) (hended : HasEnded events i)
    {span : List Event} (hspan : .invalidate ∉ span) {k : Nat} {call : LoadCall}
    (hk : ((start package release).run endings events).calls.length ≤ k)
    (hcall : ((start package release).run endings (events ++ span)).calls[k]? = some call) :
    call = .returned ((endings i).reply package release (events.count .invalidate)) := by
  induction span using List.reverseRecOn generalizing call with
  | nil =>
    rw [List.append_nil, List.getElem?_eq_none hk] at hcall
    cases hcall
  | append_singleton span event ih =>
    rw [List.mem_append, not_or] at hspan
    rw [← List.append_assoc, run_concat] at hcall
    cases event with
    | load =>
      have hfits := fits_run package release endings (events ++ span)
      have hsame : (events ++ span).count .invalidate = events.count .invalidate := by
        rw [List.count_append, List.count_eq_zero_of_not_mem hspan.1, Nat.add_zero]
      have hload := (hfits.loader.load_of_ended
        (started_of_ended (hsame ▸ hstarted.append span) (hended.append span))).2
      rw [hfits.package_eq, hfits.release_eq, epoch_run, hsame] at hload
      rw [step, List.getElem?_append] at hcall
      split at hcall
      · exact ih hspan.1 hcall
      · rw [List.mem_singleton.mp (List.mem_of_getElem? hcall), hload]
    | resume j =>
      rw [step, List.getElem?_modify] at hcall
      obtain ⟨old, hold, rfl⟩ := Option.map_eq_some_iff.mp hcall
      rw [ih hspan.1 hold]
      exact ite_self _
    | cancel j =>
      rw [step, List.getElem?_modify] at hcall
      obtain ⟨old, hold, rfl⟩ := Option.map_eq_some_iff.mp hcall
      rw [ih hspan.1 hold]
      exact ite_self _
    | invalidate => exact absurd List.mem_cons_self hspan.2
    | ended j => exact ih hspan.1 hcall

/-- **What a loader shows of the acquisition of its epoch.** At every point of every run:

* the loader shows as loading if and only if that acquisition was started and either has not ended
  or has ended without an outcome;
* once it has ended with an outcome, the loader shows as loaded or as failed, and as failed exactly
  if loads fail for it;
* once it has ended in any way, every load up to the next invalidation gets its reply, which is a
  failure also after an end without an outcome. -/
theorem shown_of_acquisition (package : String) (release : Release) (endings : Nat → Ending)
    (events : List Event) :
    let s := (start package release).run endings events
    let epoch := events.count .invalidate
    (s.loader.state = .loading ↔
      ∃ i, StartedFor events i epoch ∧ (¬ HasEnded events i ∨ endings i = .abandoned)) ∧
    ∀ i, StartedFor events i epoch → HasEnded events i →
      let reply := (endings i).reply package release epoch
      (endings i ≠ .abandoned →
        (s.loader.state = .loaded ∨ s.loader.state = .failed) ∧
        (s.loader.state = .failed ↔ ∃ cause, reply = .error (.engineLoad package cause))) ∧
      (endings i = .abandoned → reply = .error (.engineLoad package .abandoned)) ∧
      ∀ span, .invalidate ∉ span → ∀ (k : Nat) call, s.calls.length ≤ k →
        (s.run endings span).calls[k]? = some call → call = .returned reply := by
  intro s epoch
  refine ⟨loading_iff package release endings events, ?_⟩
  intro i hstarted hended reply
  have hshown : s.loader.state = (endings i).shown :=
    (fits_run package release endings events).loader.state_of_ended
      (started_of_ended hstarted hended)
  refine ⟨?_, ?_, ?_⟩
  · intro houtcome
    rw [hshown]
    show _ ∧ (_ ↔ ∃ cause, (endings i).reply package release epoch = _)
    cases hending : endings i with
    | acquired engine => simp [Ending.shown, Ending.reply]
    | failed cause => simp [Ending.shown, Ending.reply]
    | abandoned => exact absurd hending houtcome
  · intro habandoned
    show (endings i).reply package release epoch = _
    rw [habandoned]
    rfl
  · intro span hspan k call hk hcall
    refine returned_after_end hstarted hended hspan hk ?_
    rwa [run, List.foldl_append]

/-- **Nothing is in flight and the loader shows as loading**: its only acquisition was abandoned,
and a further load fails. -/
theorem loading_after_abandoned :
    let events : List Event := [.load, .ended 0]
    let s := (start "stub" none).run (fun _ => .abandoned) events
    s.loader.state = .loading ∧
    (¬ ∃ i, StartedFor events i (events.count .invalidate) ∧ ¬ HasEnded events i) ∧
    (s.step (fun _ => .abandoned) .load).calls[1]? =
      some (.returned (.error (.engineLoad "stub" .abandoned))) := by
  refine ⟨rfl, ?_, rfl⟩
  rintro ⟨i, hstarted, hrunning⟩
  have hi : i < 1 := (List.getElem?_eq_some_iff.mp hstarted).1
  obtain rfl : i = 0 := by omega
  exact hrunning ⟨[.load], [], 0, rfl, rfl⟩

end Traffic

end Arboretum
