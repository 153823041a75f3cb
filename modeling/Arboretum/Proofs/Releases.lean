import Arboretum.Proofs.ParseOutcome

/-!
# Releases are independent

The loaders of a package are kept by release, and a release gets its loader when that is looked up
for the first time. Which events look a loader up is said by the requests and the calls alone
(`Session.LooksUp`). All the others leave the engines as they are.

* `EngineSet.pinnedVersions_modify`, `EngineSet.mem_pinnedVersions`: the releases are kept in order.
* `Session.engines_of_looksUp`, `Session.idle_step`: what an event does that looks a loader up, and
  that one which does not does nothing to loaders.
* `Session.loader?_step_of_ne`, `Session.getElem?_step_of_release_ne`: an event on one release
  leaves the loader of every other one, and the calls at it.
* `Session.mem_pinnedVersions_run`: a release has a loader exactly when it was looked up.
* `Session.releases_independent`: all of this, after every run.
-/

namespace Arboretum

/-! ## The pinned loaders -/

namespace EngineSet

theorem isSome_pinnedGet? (pinned : List (String × Loader)) (key : String) :
    (pinnedGet? pinned key).isSome = true ↔ key ∈ pinned.map Prod.fst := by
  induction pinned with
  | nil => simp [pinnedGet?]
  | cons entry rest ih =>
    obtain ⟨first, loader⟩ := entry
    rw [pinnedGet?, List.map_cons, List.mem_cons]
    split
    · rename_i hfirst
      simp [hfirst]
    · rename_i hfirst
      rw [ih, or_iff_right fun heq => hfirst heq.symm]

/-- A release has a loader of its own exactly when one is found. -/
theorem mem_pinnedVersions (set : EngineSet) (key : String) :
    key ∈ set.pinnedVersions ↔ (set.loader? (some key)).isSome = true :=
  (isSome_pinnedGet? set.pinned key).symm

theorem pairwise_pinnedPut {pinned : List (String × Loader)}
    (h : (pinned.map Prod.fst).Pairwise (· < ·)) (key : String) (loader : Loader) :
    ((pinnedPut pinned key loader).map Prod.fst).Pairwise (· < ·) := by
  induction pinned with
  | nil => exact List.pairwise_singleton _ _
  | cons entry rest ih =>
    obtain ⟨first, old⟩ := entry
    obtain ⟨hfirst, hrest⟩ := List.pairwise_cons.mp h
    rw [pinnedPut]
    split
    · rename_i hlt
      refine List.pairwise_cons.mpr ⟨fun other hother => ?_, h⟩
      rcases List.mem_cons.mp hother with rfl | hmem
      · exact hlt
      · exact String.lt_trans hlt (hfirst other hmem)
    · rename_i hnlt
      split
      · exact h
      · rename_i hne
        refine List.pairwise_cons.mpr ⟨fun other hother => ?_, ih hrest⟩
        -- What is found behind the first entry is the new key or was there before.
        have hfound := (isSome_pinnedGet? _ other).mpr hother
        rw [pinnedGet?_put] at hfound
        by_cases hkey : key = other
        · subst hkey
          exact String.not_le.mp fun hle => hne (String.le_antisymm hle (String.not_lt.mp hnlt))
        · rw [if_neg hkey] at hfound
          exact hfirst other ((isSome_pinnedGet? rest other).mp hfound)

theorem loader?_modify (set : EngineSet) (release other : Release) (change : Loader → Loader) :
    (set.modify release change).loader? other =
      if release = other then some (change (set.loader release)) else set.loader? other := by
  cases release with
  | none =>
    cases other with
    | none => rfl
    | some key => rfl
  | some key =>
    cases other with
    | none => rfl
    | some key' =>
      simp only [modify, loader?, pinnedGet?_put, Option.some.injEq]

/-- The end of an acquisition makes no loader. -/
theorem isSome_loader?_finish (set : EngineSet) (release other : Release) (acquisition : Nat)
    (ending : Ending) :
    ((set.finish release acquisition ending).loader? other).isSome =
      (set.loader? other).isSome := by
  unfold finish
  split
  · rename_i hfound
    rw [loader?_modify]
    split
    · rename_i heq
      rw [← heq, hfound]
      rfl
    · rfl
  · rfl

theorem loader?_finish_of_ne (set : EngineSet) {release other : Release} (h : release ≠ other)
    (acquisition : Nat) (ending : Ending) :
    (set.finish release acquisition ending).loader? other = set.loader? other := by
  unfold finish
  split
  · rw [loader?_modify, if_neg h]
  · rfl

theorem pinnedVersions_modify {set : EngineSet} (h : set.pinnedVersions.Pairwise (· < ·))
    (release : Release) (change : Loader → Loader) :
    (set.modify release change).pinnedVersions.Pairwise (· < ·) := by
  cases release with
  | none => exact h
  | some key => exact pairwise_pinnedPut h key _

theorem pinnedVersions_finish {set : EngineSet} (h : set.pinnedVersions.Pairwise (· < ·))
    (release : Release) (acquisition : Nat) (ending : Ending) :
    (set.finish release acquisition ending).pinnedVersions.Pairwise (· < ·) := by
  unfold finish
  split
  · exact pinnedVersions_modify h release _
  · exact h

end EngineSet

/-! ## Look-ups -/

/-- The request that an event is about. -/
def Event.request? (s : Session) : Event → Option Request
  | .call request => some request
  | .cancel ticket | .resume ticket | .fetched ticket _ => s.requests[ticket]?
  | _ => none

/-- The release that an event is on. -/
def Event.release? (s : Session) : Event → Option Release
  | .lookUp release | .invalidate release | .acquired release _ _ => some release
  | event => (event.request? s).map Request.release

theorem Event.release?_of_request? {s : Session} {event : Event} {request : Request}
    (h : event.request? s = some request) : event.release? s = some request.release := by
  cases event with
  | lookUp release => cases h
  | invalidate release => cases h
  | acquired release acquisition ending => cases h
  | _ =>
    rw [release?, h]
    · rfl
    all_goals simp

namespace Session

/-- **By this event the loader of a release is looked up**: directly, by a load, by a parse whose
release and options are in order, or by a call for a version which resolves that with the engine. -/
inductive LooksUp (s : Session) (release : Release) : Event → Prop
  | lookUp : LooksUp s release (.lookUp release)
  | invalidate : LooksUp s release (.invalidate release)
  | load : LooksUp s release (.call (.load release))
  | parse {adapter : Adapter} {code : String} {user : Option OptionsValue} {options : Fields}
      (allowed : release = none ∨ adapter.versionOverridable = true)
      (resolved : adapter.options.resolve user = .ok options) :
    LooksUp s release (.call (.parse adapter code user release))
  | version {event : Event} {k : Nat} {adapter : Adapter}
      (turn : s.TakesTurn release event k adapter)
      (unknown : (s.versions.get release).value = none)
      (engine : ∀ source, adapter.versionSource ≠ .metadata source) :
    LooksUp s release event

/-- The acquisitions started so far, by release and number. -/
def begun (s : Session) : List (Release × Nat) :=
  s.started.filterMap fun
    | .acquisition release number => some (release, number)
    | .fetch _ _ => none

/-- Nothing was done to a loader, and no acquisition was started. -/
def Idle (s t : Session) : Prop := t.engines = s.engines ∧ t.begun = s.begun

variable {s : Session} {release : Release} {event : Event}

theorem TakesTurn.request? {k : Nat} {adapter : Adapter} (h : s.TakesTurn release event k adapter) :
    event.request? s = some (.version adapter release) := by
  cases h with
  | resume call oldest => exact getElem?_requests call
  | call allowed alone => rfl

theorem LooksUp.release? (h : s.LooksUp release event) : event.release? s = some release := by
  cases h with
  | version turn unknown engine => exact Event.release?_of_request? turn.request?
  | _ => rfl

/-- **A look-up changes the loader of its release**, which is made if there was none. -/
theorem engines_of_looksUp (horderly : s.Orderly) (h : s.LooksUp release event) :
    ∃ change : Loader → Loader, (s.step event).engines = s.engines.modify release change := by
  cases h with
  | lookUp => exact ⟨id, rfl⟩
  | invalidate => exact ⟨Loader.invalidate, rfl⟩
  | load =>
    refine ⟨fun loader => loader.load.1, ?_⟩
    rw [step, start_of_not_version rfl rfl, loadEngine_eq]
    rfl
  | parse allowed resolved =>
    refine ⟨fun loader => loader.load.1, ?_⟩
    obtain ⟨options, hprepare⟩ := Adapter.prepare_eq_ok_iff.mpr ⟨allowed, _, resolved⟩
    rw [step, start_of_not_version rfl (by simp only [Request.refusal?, hprepare]), loadEngine_eq]
    rfl
  | version turn unknown engine =>
    refine ⟨fun loader => loader.load.1, ?_⟩
    obtain ⟨u, hengines, -, -, hstep⟩ := step_of_turn horderly unknown turn
    rw [hstep, resolveVersion_eq, Adapter.sideVerdict?_eq_none_iff.mpr engine, ← hengines]
    rfl

theorem begun_conclude (s : Session) (ticket : Nat) (request : Request) (verdict : Verdict) :
    (s.conclude ticket request verdict).begun = s.begun := by
  cases verdict <;> simp [begun, conclude, Verdict.jobs]

/-- A turn at a version is idle unless the first of the queue loads the engine. -/
theorem TurnsInto.idle {t : Session} {k : Nat} {adapter : Adapter}
    (h : s.TurnsInto k adapter release t)
    (hloads : (s.versions.get release).value = none →
      (s.versions.get release).queue.head? = some k → adapter.sideVerdict? release ≠ none) :
    s.Idle t := by
  cases h with
  | known value => exact ⟨rfl, rfl⟩
  | waits value => exact ⟨rfl, rfl⟩
  | aside value head side => exact ⟨rfl, begun_conclude _ _ _ _⟩
  | loads value head side => exact absurd side (hloads value head)

theorem idle_resume (horderly : s.Orderly) {k : Nat}
    (hnot : ∀ release, ¬ s.LooksUp release (.resume k)) : s.Idle (s.resume k) := by
  cases hcall : s.calls[k]? with
  | none =>
    rw [resume, hcall]
    exact ⟨rfl, rfl⟩
  | some call =>
    obtain ⟨request, phase⟩ := call
    cases phase with
    | queued =>
      cases request with
      | version adapter release =>
        simp only [resume, hcall]
        refine (s.turnsInto_versionTurn k adapter release).idle fun hvalue hhead hside => ?_
        refine hnot release (.version (.resume hcall fun j phase hj hopen => ?_) hvalue
          (Adapter.sideVerdict?_eq_none_iff.mp hside))
        exact (horderly release).oldest_of_head hvalue hhead hj hopen
      | _ =>
        simp only [resume, hcall]
        exact ⟨rfl, rfl⟩
    | loading acquisition =>
      simp only [resume, hcall, awaitEngine_eq]
      exact ⟨rfl, begun_conclude _ _ _ _⟩
    | _ =>
      simp only [resume, hcall]
      exact ⟨rfl, rfl⟩

/-- A call for a version that comes first in its queue finds no other one open. -/
theorem alone_of_head (horderly : s.Orderly) (hvalue : (s.versions.get release).value = none)
    (hhead : ((s.versions.get release).queue ++ [s.calls.length]).head? = some s.calls.length)
    {j : Nat} {phase : Phase} (hj : s.At release j phase) : phase.isOpen = false := by
  rw [Bool.eq_false_iff]
  intro hopen
  have hmem := (horderly release).queued j phase hj hopen hvalue
  cases hqueue : (s.versions.get release).queue with
  | nil =>
    rw [hqueue] at hmem
    cases hmem
  | cons first rest =>
    obtain ⟨p, hp, -⟩ := (horderly release).waiting first (hqueue ▸ List.mem_cons_self)
    rw [hqueue] at hhead
    exact absurd (Option.some.inj hhead) (Nat.ne_of_lt hp.lt)

theorem idle_joinQueue (s : Session) (ticket : Nat) (release : Release) :
    s.Idle (s.joinQueue ticket release) := by
  refine ⟨engines_joinQueue s ticket release, ?_⟩
  unfold begun joinQueue
  simp only
  split <;> rfl

theorem idle_start_version (horderly : s.Orderly) {adapter : Adapter}
    (hallowed : adapter.checkOverride release = .ok ())
    (hnot : ¬ s.LooksUp release (.call (.version adapter release))) :
    s.Idle (s.start (.version adapter release)) := by
  let joined := (s.enlist (.version adapter release)).joinQueue s.calls.length release
  have hjoined : s.Idle joined :=
    idle_joinQueue (s.enlist (.version adapter release)) s.calls.length release
  have hturn : joined.Idle (joined.versionTurn s.calls.length adapter release) := by
    refine (joined.turnsInto_versionTurn _ _ _).idle fun hvalue hhead hside => hnot ?_
    have hunknown : ((s.enlist (.version adapter release)).versions.get release).value = none :=
      (value_joinQueue _ _ _ _).symm.trans hvalue
    simp only [joined, joinQueue_of_unknown hunknown, VersionCache.get_put_self] at hhead
    exact .version (.call hallowed fun j phase hj => alone_of_head horderly hunknown hhead hj)
      hunknown (Adapter.sideVerdict?_eq_none_iff.mp hside)
  rw [start_version (refusal?_version hallowed)]
  exact ⟨hturn.1.trans hjoined.1, hturn.2.trans hjoined.2⟩

theorem idle_start (horderly : s.Orderly) {request : Request}
    (hnot : ∀ release, ¬ s.LooksUp release (.call request)) : s.Idle (s.start request) := by
  cases hrefusal : request.refusal? with
  | some e =>
    rw [start_eq_of_refused hrefusal]
    exact ⟨rfl, rfl⟩
  | none =>
    cases request with
    | load release => exact absurd .load (hnot release)
    | parse adapter code user release =>
      have hprepare : ∃ options, adapter.prepare user release = .ok options := by
        simp only [Request.refusal?] at hrefusal
        split at hrefusal
        · exact ⟨_, ‹_›⟩
        · cases hrefusal
      obtain ⟨hallowed, options, hresolved⟩ := Adapter.prepare_eq_ok_iff.mp hprepare
      exact absurd (.parse hallowed hresolved) (hnot release)
    | version adapter release =>
      have hallowed : adapter.checkOverride release = .ok () := by
        simp only [Request.refusal?] at hrefusal
        split at hrefusal
        · assumption
        · cases hrefusal
      exact idle_start_version horderly hallowed (hnot release)

/-- **An event that looks no loader up does nothing to loaders**, the end of an acquisition apart. -/
theorem idle_step (horderly : s.Orderly) (hnot : ∀ release, ¬ s.LooksUp release event)
    (hended : ∀ release acquisition ending, event ≠ .acquired release acquisition ending) :
    s.Idle (s.step event) := by
  cases event with
  | call request => exact idle_start horderly hnot
  | resume k => exact idle_resume horderly hnot
  | cancel k =>
    rw [step, cancel]
    split
    · exact ⟨rfl, rfl⟩
    · simp only
      split <;> exact ⟨rfl, rfl⟩
  | lookUp release => exact absurd .lookUp (hnot release)
  | invalidate release => exact absurd .invalidate (hnot release)
  | acquired release acquisition ending => exact absurd rfl (hended release acquisition ending)
  | fetched k answer =>
    rw [step, fetched]
    split
    · rename_i adapter release _
      rw [finishVersion_eq s k adapter release]
      exact ⟨rfl, begun_conclude _ _ _ _⟩
    · exact ⟨rfl, rfl⟩

/-! ## Runs -/

/-- What can become of the engines by an event. -/
inductive EnginesStep (s : Session) : Event → EngineSet → Prop
  | looks {event : Event} {release : Release} (change : Loader → Loader)
      (looksUp : s.LooksUp release event) : EnginesStep s event (s.engines.modify release change)
  | ends (release : Release) (acquisition : Nat) (ending : Ending) :
    EnginesStep s (.acquired release acquisition ending)
      (s.engines.finish release acquisition ending)
  | same {event : Event} (idle : ∀ release, ¬ s.LooksUp release event) :
    EnginesStep s event s.engines

theorem enginesStep (horderly : s.Orderly) (event : Event) :
    EnginesStep s event (s.step event).engines := by
  by_cases hlooks : ∃ release, s.LooksUp release event
  · obtain ⟨release, hlooks⟩ := hlooks
    obtain ⟨change, hengines⟩ := engines_of_looksUp horderly hlooks
    rw [hengines]
    exact .looks change hlooks
  · have hnot : ∀ release, ¬ s.LooksUp release event := fun release h => hlooks ⟨release, h⟩
    by_cases hended : ∃ release acquisition ending, event = .acquired release acquisition ending
    · obtain ⟨release, acquisition, ending, rfl⟩ := hended
      exact .ends release acquisition ending
    · rw [(idle_step horderly hnot fun r i ending heq => hended ⟨r, i, ending, heq⟩).1]
      exact .same hnot

/-- **An event on one release leaves the loader of every other one.** -/
theorem loader?_step_of_ne (horderly : s.Orderly) {other : Release}
    (h : event.release? s ≠ some other) :
    (s.step event).engines.loader? other = s.engines.loader? other := by
  have hstep := enginesStep horderly event
  generalize (s.step event).engines = engines at hstep
  cases hstep with
  | looks change looksUp =>
    rw [EngineSet.loader?_modify, if_neg]
    rintro rfl
    exact h looksUp.release?
  | ends release acquisition ending =>
    refine EngineSet.loader?_finish_of_ne _ (fun heq => h ?_) acquisition ending
    rw [← heq]
    rfl
  | same idle => rfl

/-- **An event on one release leaves every call at another one.** -/
theorem getElem?_step_of_release_ne {k : Nat} {call : Call} (hk : s.calls[k]? = some call)
    (h : event.release? s ≠ some call.request.release) : (s.step event).calls[k]? = some call := by
  rw [getElem?_step_of_ne s (List.getElem?_eq_some_iff.mp hk).1 fun hticket => h ?_, hk]
  refine Event.release?_of_request? ?_
  cases event with
  | cancel j =>
    cases hticket
    exact getElem?_requests hk
  | resume j =>
    cases hticket
    exact getElem?_requests hk
  | fetched j answer =>
    cases hticket
    exact getElem?_requests hk
  | _ => cases hticket

/-- A release has a loader after an event if it had one or is looked up by it. -/
theorem mem_pinnedVersions_step (horderly : s.Orderly) (event : Event) (r : String) :
    r ∈ (s.step event).engines.pinnedVersions ↔
      r ∈ s.engines.pinnedVersions ∨ s.LooksUp (some r) event := by
  have hstep := enginesStep horderly event
  generalize (s.step event).engines = engines at hstep
  rw [EngineSet.mem_pinnedVersions, EngineSet.mem_pinnedVersions]
  cases hstep with
  | looks change looksUp =>
    rw [EngineSet.loader?_modify]
    split
    · rename_i heq
      subst heq
      simp [looksUp]
    · rename_i hne
      -- An event is on one release, so it does not look up a second one.
      rw [or_iff_left]
      intro hr
      have hsame := looksUp.release?.symm.trans hr.release?
      exact hne (Option.some.inj hsame)
  | ends release acquisition ending =>
    rw [EngineSet.isSome_loader?_finish, or_iff_left]
    intro hr
    cases hr with
    | version turn unknown engine => cases turn
  | same idle => rw [or_iff_left (idle (some r))]

theorem pinnedVersions_run (package : String) (events : List Event) :
    ((new package).run events).engines.pinnedVersions.Pairwise (· < ·) := by
  induction events using List.reverseRecOn with
  | nil => exact .nil
  | append_singleton events event ih =>
    have hstep := enginesStep (orderly_run package events) event
    rw [run_concat]
    generalize (((new package).run events).step event).engines = engines at hstep
    cases hstep with
    | looks change looksUp => exact EngineSet.pinnedVersions_modify ih _ change
    | ends release acquisition ending => exact EngineSet.pinnedVersions_finish ih _ _ _
    | same idle => exact ih

/-- **A release has a loader exactly when an event of the run looked it up.** -/
theorem mem_pinnedVersions_run (package : String) (events : List Event) (r : String) :
    r ∈ ((new package).run events).engines.pinnedVersions ↔
      ∃ before event, before ++ [event] <+: events ∧
        ((new package).run before).LooksUp (some r) event := by
  induction events using List.reverseRecOn with
  | nil =>
    constructor
    · intro h
      cases h
    · rintro ⟨before, event, hfront, -⟩
      cases before <;> cases List.prefix_nil.mp hfront
  | append_singleton events event ih =>
    rw [run_concat, mem_pinnedVersions_step (orderly_run package events), ih]
    constructor
    · rintro (⟨before, earlier, hfront, hlooks⟩ | hlooks)
      · exact ⟨before, earlier, hfront.trans (List.prefix_append _ _), hlooks⟩
      · exact ⟨events, event, List.prefix_rfl, hlooks⟩
    · rintro ⟨before, earlier, hfront, hlooks⟩
      rcases List.prefix_concat_iff.mp hfront with heq | hearlier
      · obtain ⟨rfl, hlast⟩ := List.append_inj' heq rfl
        cases hlast
        exact .inr hlooks
      · exact .inl ⟨before, earlier, hearlier, hlooks⟩

/-- A version from a side channel looks no loader up. -/
theorem not_looksUp_of_metadata {adapter : Adapter} {source : Metadata} {asked : Release}
    (hrequest : event.request? s = some (.version adapter asked))
    (hsource : adapter.versionSource = .metadata source) (release : Release) :
    ¬ s.LooksUp release event := by
  intro h
  cases h with
  | version turn unknown engine =>
    rw [turn.request?] at hrequest
    cases hrequest
    exact engine source hsource
  | _ => cases hrequest

theorem package_run (package : String) (events : List Event) :
    ((new package).run events).engines.package = package :=
  (provides_run package events none).package_eq

/-- An event on one release leaves what a look-up finds for another one, made or not. -/
theorem loader_step_of_ne (package : String) (events : List Event) {other : Release}
    (h : event.release? ((new package).run events) ≠ some other) :
    (((new package).run events).step event).engines.loader other =
      ((new package).run events).engines.loader other := by
  have hpackage := package_run package (events ++ [event])
  rw [run_concat] at hpackage
  unfold EngineSet.loader
  rw [loader?_step_of_ne (orderly_run package events) h, hpackage, package_run]

/-- Two look-ups find one loader exactly for one release. -/
theorem loader_eq_iff (package : String) (events : List Event) (v w : Release) :
    ((new package).run events).engines.loader v = ((new package).run events).engines.loader w ↔
      v = w := by
  constructor
  · intro heq
    have hrelease := (provides_run package events v).release_eq
    rwa [heq, (provides_run package events w).release_eq, eq_comm] at hrelease
  · rintro rfl
    rfl

/-- An invalidation through one look-up is seen through another exactly for one release. -/
theorem loader_invalidate_ne_iff (s : Session) (v w : Release) :
    (s.step (.invalidate v)).engines.loader w ≠ s.engines.loader w ↔ v = w := by
  rw [step, EngineSet.loader_modify _ _ _ Loader.package_invalidate]
  split
  · rename_i heq
    subst heq
    refine iff_of_true (fun hsame => ?_) rfl
    have hepoch := congrArg Loader.epoch hsame
    rw [Loader.epoch_invalidate] at hepoch
    omega
  · rename_i hne
    exact iff_of_false (fun h => h rfl) hne

/-- **Releases are independent.** After every run:

* two look-ups find the same loader exactly if they are for the same release, the default one being
  none of those that have a name. Looking a loader up changes none, and what is done through one
  look-up is seen through another exactly for the same release;
* an event on one release leaves the loader of every other one, with its state and its count of
  acquisitions, and the calls at it;
* the releases with a loader of their own are listed in increasing order, and are those that some
  event of the run looked up;
* a refused call, and whatever happens to a call for a version that comes from a side channel, does
  nothing to a loader, adds no release and starts no acquisition. -/
theorem releases_independent (package : String) (events : List Event) :
    let s := (new package).run events
    (∀ v w : Release, (s.engines.loader v = s.engines.loader w ↔ v = w) ∧
      (s.step (.lookUp v)).engines.loader w = s.engines.loader w ∧
      ((s.step (.invalidate v)).engines.loader w ≠ s.engines.loader w ↔ v = w)) ∧
    (∀ event w, event.release? s ≠ some w →
      let t := s.step event
      t.engines.loader? w = s.engines.loader? w ∧ t.engines.loader w = s.engines.loader w ∧
      ∀ (k : Nat) (call : Call), s.calls[k]? = some call → call.request.release = w →
        t.calls[k]? = some call) ∧
    s.engines.pinnedVersions.Pairwise (· < ·) ∧
    (∀ r, r ∈ s.engines.pinnedVersions ↔
      ∃ before event, before ++ [event] <+: events ∧
        ((new package).run before).LooksUp (some r) event) ∧
    (∀ request e, request.refusal? = some e → s.Idle (s.step (.call request))) ∧
    ∀ event adapter release source, event.request? s = some (.version adapter release) →
      adapter.versionSource = .metadata source → s.Idle (s.step event) := by
  intro s
  have horderly : s.Orderly := orderly_run package events
  refine ⟨?_, ?_, pinnedVersions_run package events, mem_pinnedVersions_run package events, ?_, ?_⟩
  · intro v w
    exact ⟨loader_eq_iff package events v w, EngineSet.loader_lookUp s.engines v w,
      loader_invalidate_ne_iff s v w⟩
  · intro event w hne t
    refine ⟨loader?_step_of_ne horderly hne, loader_step_of_ne package events hne, ?_⟩
    rintro k call hk rfl
    exact getElem?_step_of_release_ne hk hne
  · intro request e hrefusal
    rw [step, start_eq_of_refused hrefusal]
    exact ⟨rfl, rfl⟩
  · intro event adapter release source hrequest hsource
    refine idle_step horderly (not_looksUp_of_metadata hrequest hsource) ?_
    rintro other acquisition ending rfl
    cases hrequest

end Session

end Arboretum
