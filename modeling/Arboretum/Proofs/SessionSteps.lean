import Arboretum.Proofs.Calls
import Arboretum.Proofs.SingleFlight
import Mathlib.Data.List.Induction
import Mathlib.Logic.Function.Basic

/-!
# What an event does to a session

An event moves one call at most and changes one loader at most. Both are said here once, for all
events; what holds of all runs is derived from them.

* `Session.calls_step`: the calls after an event. So tickets are stable (`requests_step`,
  `requests_run`), and an event leaves all calls but one as they are (`getElem?_step_of_ne`).
* `Session.loader_step`: the loader of a release after an event. So every loader of a run has come
  about by traffic of its own (`loader_traffic`), and what holds of traffic holds of it
  (`provides_run`).
-/

namespace Arboretum

namespace Session

/-! ## Tickets -/

/-- What the calls asked for, by their tickets. -/
def requests (s : Session) : List Request := s.calls.map Call.request

theorem getElem?_requests {s : Session} {k : Nat} {call : Call} (h : s.calls[k]? = some call) :
    s.requests[k]? = some call.request := by
  rw [requests, List.getElem?_map, h]
  rfl

theorem getElem?_setPhase (s : Session) (k : Nat) (phase : Phase) (j : Nat) :
    (s.setPhase k phase).calls[j]? =
      if j = k then s.calls[j]?.map fun call => { call with phase } else s.calls[j]? := by
  unfold setPhase
  split
  · rename_i h
    subst h
    exact List.getElem?_modify_eq _ j s.calls
  · rename_i h
    exact List.getElem?_modify_ne _ s.calls fun heq => h heq.symm

theorem setPhase_eq_self {s : Session} {k : Nat} {request : Request} {phase : Phase}
    (hk : s.calls[k]? = some ⟨request, phase⟩) : s.setPhase k phase = s := by
  have hcalls : (s.setPhase k phase).calls = s.calls := by
    apply List.ext_getElem?
    intro j
    rw [getElem?_setPhase]
    split
    · rename_i hj
      rw [hj, hk]
      rfl
    · rfl
  exact congrArg (fun calls => { s with calls }) hcalls

theorem requests_setPhase (s : Session) (ticket : Nat) (phase : Phase) :
    (s.setPhase ticket phase).requests = s.requests := by
  unfold requests
  apply List.ext_getElem?
  intro k
  rw [List.getElem?_map, List.getElem?_map, getElem?_setPhase]
  split
  · cases s.calls[k]? <;> rfl
  · rfl

theorem requests_conclude (s : Session) (ticket : Nat) (request : Request) (verdict : Verdict) :
    (s.conclude ticket request verdict).requests = s.requests :=
  s.requests_setPhase ticket verdict.phase

theorem getElem?_conclude {s : Session} {k : Nat} {call : Call} (hk : s.calls[k]? = some call)
    (request : Request) (verdict : Verdict) :
    (s.conclude k request verdict).calls[k]? = some { call with phase := verdict.phase } := by
  refine (s.getElem?_setPhase k verdict.phase k).trans ?_
  rw [if_pos rfl, hk]
  rfl

theorem getElem?_enlist (s : Session) (request : Request) (j : Nat) :
    (s.enlist request).calls[j]? =
      if j = s.calls.length then some ⟨request, .queued⟩ else s.calls[j]? := by
  rw [enlist, List.getElem?_append]
  split
  · rename_i hlt
    rw [if_neg (Nat.ne_of_lt hlt)]
  · rename_i hle
    split
    · rename_i heq
      rw [heq, Nat.sub_self]
      rfl
    · rename_i hne
      rw [List.getElem?_eq_none (by simp; omega), List.getElem?_eq_none (by omega)]

theorem calls_setPhase_enlist (s : Session) (request : Request) (phase : Phase) :
    ((s.enlist request).setPhase s.calls.length phase).calls = s.calls ++ [⟨request, phase⟩] := by
  simp [setPhase, enlist, List.modify_eq_take_drop]

/-- A refused call is there with its failure, and nothing else has changed. -/
theorem start_eq_of_refused {request : Request} {e : Error} (h : request.refusal? = some e)
    (s : Session) :
    s.start request = { s with calls := s.calls ++ [⟨request, .finished (.failure e)⟩] } := by
  rw [start_of_refused h, ← calls_setPhase_enlist]
  rfl

theorem calls_joinQueue (s : Session) (ticket : Nat) (release : Release) :
    (s.joinQueue ticket release).calls = s.calls := by
  cases hvalue : (s.versions.get release).value with
  | some text => rw [joinQueue_of_known hvalue]
  | none => rw [joinQueue_of_unknown hvalue]

theorem TurnsInto.calls {s t : Session} {ticket : Nat} {adapter : Adapter} {release : Release}
    (h : s.TurnsInto ticket adapter release t) :
    ∃ phase, t.calls = (s.setPhase ticket phase).calls := by
  cases h with
  | known value => exact ⟨_, rfl⟩
  | waits value => exact ⟨_, rfl⟩
  | aside value head side => exact ⟨_, rfl⟩
  | loads value head side => exact ⟨_, rfl⟩

theorem StartsAs.calls {s t : Session} {request : Request} (h : s.StartsAs request t) :
    ∃ phase, t.calls = s.calls ++ [⟨request, phase⟩] := by
  cases h with
  | refused => exact ⟨_, s.calls_setPhase_enlist request _⟩
  | loads version => exact ⟨_, s.calls_setPhase_enlist request _⟩
  | turns version turn =>
    obtain ⟨phase, hcalls⟩ := turn.calls
    refine ⟨phase, ?_⟩
    rw [hcalls, setPhase, calls_joinQueue]
    exact s.calls_setPhase_enlist request phase

end Session

/-- What is asked for by an event. -/
def Event.asked? : Event → Option Request
  | .call request => some request
  | _ => none

/-- The call that an event is about, if it is there already. -/
def Event.ticket? : Event → Option Nat
  | .cancel ticket | .resume ticket | .fetched ticket _ => some ticket
  | _ => none

namespace Session

/-- What can become of the calls by an event. -/
inductive CallsStep (calls : List Call) : Event → List Call → Prop
  | same {event : Event} (asked : event.asked? = none) : CallsStep calls event calls
  | new (request : Request) (phase : Phase) :
    CallsStep calls (.call request) (calls ++ [⟨request, phase⟩])
  | moved {event : Event} {ticket : Nat} (phase : Phase) (about : event.ticket? = some ticket) :
    CallsStep calls event (calls.modify ticket fun call => { call with phase })

/-- **An event changes the phase of the call it is about, or adds a call.** -/
theorem calls_step (s : Session) (event : Event) :
    CallsStep s.calls event (s.step event).calls := by
  cases event with
  | call request =>
    obtain ⟨phase, hcalls⟩ := (s.startsAs_start request).calls
    rw [step, hcalls]
    exact .new request phase
  | cancel ticket =>
    rw [step, cancel]
    split
    · exact .same rfl
    · simp only
      split <;> exact .moved .cancelled rfl
  | resume ticket =>
    rw [step, resume]
    split
    · exact .same rfl
    · split
      · rename_i adapter release _ _
        obtain ⟨phase, hcalls⟩ := (s.turnsInto_versionTurn ticket adapter release).calls
        rw [hcalls]
        exact .moved phase rfl
      · rw [awaitEngine_eq]
        exact .moved _ rfl
      · exact .same rfl
  | lookUp release => exact .same rfl
  | invalidate release => exact .same rfl
  | acquired release acquisition ending => exact .same rfl
  | fetched ticket answer =>
    rw [step, fetched]
    split
    · rename_i adapter release _
      rw [finishVersion_eq s ticket adapter release]
      exact .moved _ rfl
    · exact .same rfl

/-- **No call changes what it asked for**, and a new call takes the next ticket. -/
theorem requests_step (s : Session) (event : Event) :
    (s.step event).requests = s.requests ++ event.asked?.toList := by
  have hstep := s.calls_step event
  unfold requests
  generalize (s.step event).calls = calls at hstep ⊢
  cases hstep with
  | same asked => rw [asked, Option.toList_none, List.append_nil]
  | new request phase => exact List.map_append
  | moved phase about =>
    have hasked : event.asked? = none := by
      cases event <;> first | rfl | cases about
    rw [hasked, Option.toList_none, List.append_nil]
    exact s.requests_setPhase _ phase

theorem requests_run (s : Session) (events : List Event) :
    (s.run events).requests = s.requests ++ events.filterMap Event.asked? := by
  induction events generalizing s with
  | nil => exact (List.append_nil _).symm
  | cons event rest ih =>
    have hrest := ih (s.step event)
    rw [requests_step, List.append_assoc] at hrest
    refine hrest.trans (congrArg _ ?_)
    rw [List.filterMap_cons]
    cases event.asked? <;> rfl

/-- **An event changes no call but the one it is about.** -/
theorem getElem?_step_of_ne (s : Session) {event : Event} {j : Nat} (hj : j < s.calls.length)
    (hne : event.ticket? ≠ some j) : (s.step event).calls[j]? = s.calls[j]? := by
  have hstep := s.calls_step event
  generalize (s.step event).calls = calls at hstep ⊢
  cases hstep with
  | same asked => rfl
  | new request phase => exact List.getElem?_append_left hj
  | moved phase about =>
    refine List.getElem?_modify_ne _ s.calls fun heq => hne ?_
    rw [about, heq]

/-! ## What an event does to a loader -/

/-- What can become of the loader of a release by an event. -/
inductive LoaderStep (release : Release) (loader : Loader) : Event → Loader → Prop
  | same (event : Event) : LoaderStep release loader event loader
  | load (event : Event) : LoaderStep release loader event loader.load.1
  | invalidate : LoaderStep release loader (.invalidate release) loader.invalidate
  | finish (acquisition : Nat) (ending : Ending) :
    LoaderStep release loader (.acquired release acquisition ending)
      (loader.finish acquisition ending)

theorem loader_enter (s : Session) (release other : Release) :
    (s.enter release).engines.loader other =
      if release = other then (s.engines.loader release).load.1 else s.engines.loader other :=
  s.engines.loader_modify release other Loader.package_load

theorem loaderStep_of_same {s t : Session} (h : t.engines = s.engines) (release : Release)
    (event : Event) :
    LoaderStep release (s.engines.loader release) event (t.engines.loader release) := by
  rw [h]
  exact .same event

theorem loaderStep_of_enter {s t : Session} {entered : Release}
    (h : t.engines = (s.enter entered).engines) (release : Release) (event : Event) :
    LoaderStep release (s.engines.loader release) event (t.engines.loader release) := by
  rw [h, loader_enter]
  split
  · rename_i heq
    subst heq
    exact .load event
  · exact .same event

theorem engines_joinQueue (s : Session) (ticket : Nat) (release : Release) :
    (s.joinQueue ticket release).engines = s.engines := by
  cases hvalue : (s.versions.get release).value with
  | some text => rw [joinQueue_of_known hvalue]
  | none => rw [joinQueue_of_unknown hvalue]

/-- A call at a version may enter the loader of its release. -/
theorem TurnsInto.engines {s t : Session} {ticket : Nat} {adapter : Adapter} {release : Release}
    (h : s.TurnsInto ticket adapter release t) :
    t.engines = s.engines ∨ t.engines = (s.enter release).engines := by
  cases h with
  | known value => exact .inl rfl
  | waits value => exact .inl rfl
  | aside value head side => exact .inl rfl
  | loads value head side => exact .inr rfl

theorem StartsAs.engines {s t : Session} {request : Request} (h : s.StartsAs request t) :
    t.engines = s.engines ∨ ∃ release, t.engines = (s.enter release).engines := by
  cases h with
  | refused => exact .inl rfl
  | loads version => exact .inr ⟨request.release, rfl⟩
  | turns version turn =>
    rename_i adapter release
    have hjoined := (s.enlist request).engines_joinQueue s.calls.length release
    rcases turn.engines with h | h
    · exact .inl (h.trans hjoined)
    · rw [h, enter, hjoined]
      exact .inr ⟨release, rfl⟩

theorem engines_resume (s : Session) (ticket : Nat) :
    (s.resume ticket).engines = s.engines ∨
      ∃ release, (s.resume ticket).engines = (s.enter release).engines := by
  unfold resume
  split
  · exact .inl rfl
  · split
    · rename_i adapter release _ _
      exact (s.turnsInto_versionTurn ticket adapter release).engines.imp_right
        fun h => ⟨release, h⟩
    · rw [awaitEngine_eq]
      exact .inl rfl
    · exact .inl rfl

/-- **What an event does to the loader of a release.** -/
theorem loader_step (s : Session) (event : Event) (release : Release) :
    LoaderStep release (s.engines.loader release) event
      ((s.step event).engines.loader release) := by
  cases event with
  | call request =>
    rcases (s.startsAs_start request).engines with h | ⟨entered, h⟩
    · exact loaderStep_of_same h release _
    · exact loaderStep_of_enter h release _
  | cancel ticket =>
    have h : (s.cancel ticket).engines = s.engines := by
      unfold cancel
      split
      · rfl
      · simp only
        split <;> rfl
    exact loaderStep_of_same h release _
  | resume ticket =>
    rcases s.engines_resume ticket with h | ⟨entered, h⟩
    · exact loaderStep_of_same h release _
    · exact loaderStep_of_enter h release _
  | lookUp other =>
    rw [step, EngineSet.loader_lookUp]
    exact .same _
  | invalidate other =>
    rw [step, EngineSet.loader_modify _ _ _ Loader.package_invalidate]
    split
    · rename_i h
      subst h
      exact .invalidate
    · exact .same _
  | acquired other acquisition ending =>
    rw [step, EngineSet.loader_finish]
    split
    · rename_i h
      subst h
      exact .finish acquisition ending
    · exact .same _
  | fetched ticket answer =>
    have h : (s.fetched ticket answer).engines = s.engines := by
      unfold fetched
      split
      · rename_i adapter wanted _
        rw [finishVersion_eq s ticket adapter wanted]
        rfl
      · rfl
    exact loaderStep_of_same h release _

end Session

/-! ## The loaders of a session -/

/-- An acquisition stays where it was started, and what it has shown is there for good. -/
theorem Session.LoaderStep.started {release : Release} {loader next : Loader} {event : Event}
    (h : LoaderStep release loader event next) {i epoch : Nat} {channel : Channel}
    (hi : loader.started[i]? = some ⟨epoch, channel⟩) :
    ∃ shown : Channel, next.started[i]? = some ⟨epoch, shown⟩ ∧
      (channel ≠ .silent → shown = channel) := by
  cases h with
  | same => exact ⟨channel, hi, fun _ => rfl⟩
  | invalidate => exact ⟨channel, hi, fun _ => rfl⟩
  | load =>
    refine ⟨channel, ?_, fun _ => rfl⟩
    cases hcurrent : loader.current with
    | absent =>
      rw [Loader.load_of_absent hcurrent, Loader.spawn,
        List.getElem?_append_left (List.getElem?_eq_some_iff.mp hi).1, hi]
    | loading j =>
      rw [Loader.load_of_loading hcurrent]
      exact hi
    | settled outcome =>
      rw [Loader.load_of_settled hcurrent]
      exact hi
  | finish j ending =>
    rcases loader.finish_cases j ending with hsame | ⟨e, hrun⟩
    · rw [hsame]
      exact ⟨channel, hi, fun _ => rfl⟩
    · rw [Loader.started_finish_of_running hrun]
      split
      · rename_i hij
        subst hij
        rw [hrun] at hi
        cases hi
        exact ⟨_, rfl, fun hsilent => absurd rfl hsilent⟩
      · exact ⟨channel, hi, fun _ => rfl⟩

/-- A loader that has come about by traffic, in which no acquisition ends but one that runs. -/
structure Loader.CameBy (endings : Nat → Ending) (traffic : List Traffic.Event) (package : String)
    (release : Release) (loader : Loader) : Prop where
  run : loader = ((Traffic.start package release).run endings traffic).loader
  ended : ∀ i, .ended i ∈ traffic →
    ∃ epoch channel, loader.started[i]? = some ⟨epoch, channel⟩ ∧ channel ≠ .silent

namespace Loader.CameBy

variable {endings : Nat → Ending} {traffic : List Traffic.Event} {package : String}
  {release : Release} {loader next : Loader} {event : Event}

/-- What has ended in the traffic has ended also after an event of the session. -/
theorem ended_step (h : loader.CameBy endings traffic package release)
    (hstep : Session.LoaderStep release loader event next) (i : Nat) (hi : .ended i ∈ traffic) :
    ∃ epoch channel, next.started[i]? = some ⟨epoch, channel⟩ ∧ channel ≠ .silent := by
  obtain ⟨epoch, channel, hchannel, hne⟩ := h.ended i hi
  obtain ⟨shown, hshown, hkept⟩ := hstep.started hchannel
  exact ⟨epoch, shown, hshown, hkept hne ▸ hne⟩

/-- An event of the session is one of the traffic of a loader, or does not touch it. -/
theorem step (h : loader.CameBy endings traffic package release)
    (hstep : Session.LoaderStep release loader event next) :
    ∃ endings traffic, next.CameBy endings traffic package release := by
  have hended := h.ended_step hstep
  cases hstep with
  | same => exact ⟨endings, traffic, h⟩
  | load =>
    refine ⟨endings, traffic ++ [.load], ?_, fun i hi => hended i (by simpa using hi)⟩
    rw [Traffic.run_concat, Traffic.step, ← h.run]
  | invalidate =>
    refine ⟨endings, traffic ++ [.invalidate], ?_, fun i hi => hended i (by simpa using hi)⟩
    rw [Traffic.run_concat, Traffic.step, ← h.run]
  | finish j ending =>
    rcases loader.finish_cases j ending with hsame | ⟨epoch, hrun⟩
    · rw [hsame]
      exact ⟨endings, traffic, h⟩
    · -- The acquisition runs, so the traffic up to here does not say yet how it is to end.
      have hfree : ∀ i, .ended i ∈ traffic → endings i = Function.update endings j ending i := by
        intro i hi
        obtain ⟨e, channel, hchannel, hne⟩ := h.ended i hi
        refine (Function.update_of_ne (fun hij => hne ?_) ending endings).symm
        rw [hij, hrun] at hchannel
        cases hchannel
        rfl
      refine ⟨Function.update endings j ending, traffic ++ [.ended j], ?_, ?_⟩
      · rw [Traffic.run_concat, Traffic.step, ← Traffic.run_congr hfree, ← h.run,
          Function.update_self]
      · intro i hi
        rcases List.mem_append.mp hi with hi | hi
        · exact hended i hi
        · cases List.mem_singleton.mp hi
          refine ⟨epoch, _, ?_, Ending.channel_ne_silent loader.release epoch ending⟩
          rw [Loader.started_finish_of_running hrun, if_pos rfl]

end Loader.CameBy

/-- A loader that loads, endings and invalidations can lead to. -/
def Loader.Sound (loader : Loader) : Prop := ∃ endings busy, loader.Fits endings busy

namespace Session

/-- The loader of a release is one of a session on the package. -/
structure Provides (package : String) (release : Release) (s : Session) : Prop where
  sound : (s.engines.loader release).Sound
  package_eq : (s.engines.loader release).package = package
  release_eq : (s.engines.loader release).release = release

theorem run_concat (s : Session) (events : List Event) (event : Event) :
    s.run (events ++ [event]) = (s.run events).step event := by
  unfold run
  rw [List.foldl_append]
  rfl

theorem run_append (s : Session) (events later : List Event) :
    (s.run events).run later = s.run (events ++ later) := List.foldl_append.symm

theorem loader_new (package : String) (release : Release) :
    (new package).engines.loader release = Loader.new package release := by
  cases release <;> rfl

/-- **The loader of a release goes through traffic of its own**, whatever else happens in the
session. -/
theorem loader_traffic (package : String) (events : List Event) (release : Release) :
    ∃ endings traffic, (((new package).run events).engines.loader release).CameBy endings traffic
      package release := by
  induction events using List.reverseRecOn with
  | nil =>
    refine ⟨fun _ => .abandoned, [], ?_, fun i hi => absurd hi List.not_mem_nil⟩
    exact loader_new package release
  | append_singleton events event ih =>
    obtain ⟨endings, traffic, h⟩ := ih
    rw [run_concat]
    exact h.step (loader_step ((new package).run events) event release)

/-- The loaders of a session are those of its package and of their release. -/
theorem provides_run (package : String) (events : List Event) (release : Release) :
    ((new package).run events).Provides package release := by
  obtain ⟨endings, traffic, h⟩ := loader_traffic package events release
  have hfits : ((Traffic.start package release).run endings traffic).Fits endings package release
      (Traffic.loadEpochs 0 traffic) := Traffic.fits_start.run traffic
  constructor <;> rw [h.run]
  · exact ⟨endings, _, hfits.loader⟩
  · exact hfits.package_eq
  · exact hfits.release_eq

end Session

end Arboretum
