import Arboretum.Proofs.Endings

/-!
# Calls that are given up

A load or a parse that is given up leaves no trace but its own phase: the acquisition it waits for,
and may have started, goes on.

* `Session.Alike`: two sessions that differ in the phases of some calls only, none of them for a
  version. `Alike.step` takes an event in both of them, `Alike.cancel` a cancellation in one.
* `Alike.run`: the cancellations of a run can be left out.
* `Session.cancellation_invisible`: so all else in the run is as without them, and the acquisition
  of an epoch ends as ever, whoever waited for it.
-/

namespace Arboretum

namespace Session

/-! ## Alike sessions -/

/-- Two sessions in which the calls that are `gone` may stand differently. -/
structure Alike (gone : Nat → Prop) (s t : Session) : Prop where
  engines : s.engines = t.engines
  versions : s.versions = t.versions
  started : s.started = t.started
  requests : s.requests = t.requests
  calls : ∀ k, ¬ gone k → s.calls[k]? = t.calls[k]?

namespace Alike

variable {gone : Nat → Prop} {s t : Session}

theorem refl (gone : Nat → Prop) (s : Session) : s.Alike gone s :=
  ⟨rfl, rfl, rfl, rfl, fun _ _ => rfl⟩

theorem symm (h : s.Alike gone t) : t.Alike gone s :=
  ⟨h.engines.symm, h.versions.symm, h.started.symm, h.requests.symm,
    fun k hk => (h.calls k hk).symm⟩

theorem mono {more : Nat → Prop} (h : s.Alike gone t) (hmore : ∀ k, gone k → more k) :
    s.Alike more t :=
  ⟨h.engines, h.versions, h.started, h.requests, fun k hk => h.calls k fun hg => hk (hmore k hg)⟩

theorem length (h : s.Alike gone t) : s.calls.length = t.calls.length := by
  have hlength := congrArg List.length h.requests
  rwa [Session.requests, Session.requests, List.length_map, List.length_map] at hlength

/-! ## The same in both -/

theorem conclude (h : s.Alike gone t) (ticket : Nat) (request : Request) (verdict : Verdict) :
    (s.conclude ticket request verdict).Alike gone (t.conclude ticket request verdict) where
  engines := h.engines
  versions := congrArg (verdict.versions · ticket request) h.versions
  started := congrArg (· ++ verdict.jobs ticket) h.started
  requests := by rw [requests_conclude, requests_conclude, h.requests]
  calls := fun k hk => by
    rw [Session.conclude, Session.conclude, List.getElem?_modify, List.getElem?_modify,
      h.calls k hk]

theorem setPhase (h : s.Alike gone t) (ticket : Nat) (phase : Phase) :
    (s.setPhase ticket phase).Alike gone (t.setPhase ticket phase) where
  engines := h.engines
  versions := h.versions
  started := h.started
  requests := by rw [requests_setPhase, requests_setPhase, h.requests]
  calls := fun k hk => by
    rw [Session.setPhase, Session.setPhase, List.getElem?_modify, List.getElem?_modify,
      h.calls k hk]

theorem enter (h : s.Alike gone t) (release : Release) :
    (s.enter release).Alike gone (t.enter release) where
  engines := by rw [Session.enter, Session.enter, h.engines]
  versions := h.versions
  started := by rw [Session.enter, Session.enter, h.engines, h.started]
  requests := h.requests
  calls := h.calls

theorem enlist (h : s.Alike gone t) (request : Request) :
    (s.enlist request).Alike gone (t.enlist request) where
  engines := h.engines
  versions := h.versions
  started := h.started
  requests := by
    have hrequests := h.requests
    unfold Session.requests at hrequests ⊢
    rw [Session.enlist, Session.enlist, List.map_append, List.map_append, hrequests]
  calls := fun k hk => by
    rw [Session.enlist, Session.enlist, List.getElem?_append, List.getElem?_append, h.length,
      h.calls k hk]

theorem withVersions (h : s.Alike gone t) (versions : VersionCache) :
    Alike gone { s with versions } { t with versions } :=
  ⟨h.engines, rfl, h.started, h.requests, h.calls⟩

theorem joinQueue (h : s.Alike gone t) (ticket : Nat) (release : Release) :
    (s.joinQueue ticket release).Alike gone (t.joinQueue ticket release) := by
  cases hvalue : (s.versions.get release).value with
  | some text =>
    rw [joinQueue_of_known hvalue, joinQueue_of_known (h.versions ▸ hvalue)]
    exact h
  | none =>
    rw [joinQueue_of_unknown hvalue, joinQueue_of_unknown (h.versions ▸ hvalue), h.versions]
    exact h.withVersions _

theorem leaveQueue (h : s.Alike gone t) (ticket : Nat) (release : Release) :
    (s.leaveQueue ticket release).Alike gone (t.leaveQueue ticket release) := by
  unfold Session.leaveQueue
  rw [h.versions]
  exact h.withVersions _

theorem loadEngine (h : s.Alike gone t) (ticket : Nat) (request : Request) :
    (s.loadEngine ticket request).Alike gone (t.loadEngine ticket request) := by
  rw [loadEngine_eq, loadEngine_eq, h.engines]
  exact (h.enter _).conclude ticket request _

theorem awaitEngine (h : s.Alike gone t) (ticket : Nat) (request : Request) (acquisition : Nat) :
    (s.awaitEngine ticket request acquisition).Alike gone
      (t.awaitEngine ticket request acquisition) := by
  rw [awaitEngine_eq, awaitEngine_eq, h.engines]
  exact h.conclude ticket request _

theorem versionTurn (h : s.Alike gone t) (ticket : Nat) (adapter : Adapter) (release : Release) :
    (s.versionTurn ticket adapter release).Alike gone (t.versionTurn ticket adapter release) := by
  cases hvalue : (s.versions.get release).value with
  | some text =>
    rw [versionTurn_of_known hvalue, versionTurn_of_known (h.versions ▸ hvalue)]
    exact h.setPhase ticket _
  | none =>
    rw [versionTurn_of_unknown hvalue, versionTurn_of_unknown (h.versions ▸ hvalue), h.versions]
    split
    · rw [resolveVersion_eq, resolveVersion_eq, h.engines]
      split
      · exact h.conclude ticket _ _
      · exact (h.enter release).conclude ticket _ _
    · exact h.setPhase ticket _

theorem start (h : s.Alike gone t) (request : Request) :
    (s.start request).Alike gone (t.start request) := by
  have henlist := h.enlist request
  cases hrefusal : request.refusal? with
  | some e =>
    rw [start_of_refused hrefusal, start_of_refused hrefusal, h.length]
    exact henlist.setPhase _ _
  | none =>
    cases hversion : request.isVersion with
    | false =>
      rw [start_of_not_version hversion hrefusal, start_of_not_version hversion hrefusal, h.length]
      exact henlist.loadEngine _ _
    | true =>
      cases request with
      | version adapter release =>
        rw [start_version hrefusal, start_version hrefusal, h.length]
        exact (henlist.joinQueue _ release).versionTurn _ adapter release
      | _ => cases hversion

/-! ## Calls that are gone -/

/-- A call that is gone changes its phase. -/
theorem left (h : s.Alike gone t) {ticket : Nat} (hgone : gone ticket) (phase : Phase) :
    (s.setPhase ticket phase).Alike gone t where
  engines := h.engines
  versions := h.versions
  started := h.started
  requests := (s.requests_setPhase ticket phase).trans h.requests
  calls := fun k hk => by
    have hne : ticket ≠ k := fun heq => hk (heq ▸ hgone)
    rw [Session.setPhase, List.getElem?_modify, h.calls k hk]
    simp [hne]

end Alike

/-- No call for a version is gone. -/
def SparesVersions (gone : Nat → Prop) (s : Session) : Prop :=
  ∀ k request, gone k → s.requests[k]? = some request → request.isVersion = false

variable {gone : Nat → Prop} {s t : Session}

namespace SparesVersions

/-- A load or a parse that is given up changes its phase only. -/
theorem cancel (h : s.SparesVersions gone) {k : Nat} (hk : gone k) :
    s.cancel k = s ∨ s.cancel k = s.setPhase k .cancelled := by
  unfold Session.cancel
  split
  · exact .inl rfl
  · rename_i call hcall
    have hversion := h k _ hk (getElem?_requests hcall)
    obtain ⟨request, phase⟩ := call
    cases request with
    | load release => cases phase <;> exact .inr rfl
    | parse adapter code user release => cases phase <;> exact .inr rfl
    | version adapter release => cases hversion

/-- A load or a parse that goes on changes its phase only. -/
theorem resume (h : s.SparesVersions gone) {k : Nat} (hk : gone k) :
    s.resume k = s ∨ ∃ phase, s.resume k = s.setPhase k phase := by
  unfold Session.resume
  split
  · exact .inl rfl
  · rename_i call hcall
    have hversion := h k _ hk (getElem?_requests hcall)
    split
    · rename_i adapter release hrequest
      rw [hrequest] at hversion
      cases hversion
    · rw [awaitEngine_eq, conclude_of_not_version s k hversion
        (Request.jobs_afterWait_of_not_version hversion _ _ _)]
      exact .inr ⟨_, rfl⟩
    · exact .inl rfl

/-- There is no fetch for a load or a parse. -/
theorem fetched (h : s.SparesVersions gone) {k : Nat} (hk : gone k)
    (answer : Except MetadataCause String) : s.fetched k answer = s := by
  unfold Session.fetched
  split
  · rename_i adapter release hcall
    exact absurd (h k _ hk (getElem?_requests hcall)) (by simp [Request.isVersion])
  · rfl

end SparesVersions

namespace Alike

theorem resume (h : s.Alike gone t) (hspares : s.SparesVersions gone) (k : Nat) :
    (s.resume k).Alike gone (t.resume k) := by
  by_cases hk : gone k
  · -- The call may stand differently in the two sessions, so each side is followed by itself.
    have hleft : (s.resume k).Alike gone t := by
      rcases hspares.resume hk with hsame | ⟨phase, hphase⟩
      · rw [hsame]
        exact h
      · rw [hphase]
        exact h.left hk phase
    have hspares' : t.SparesVersions gone := fun j request hj hrequest =>
      hspares j request hj (h.requests ▸ hrequest)
    rcases hspares'.resume hk with hsame | ⟨phase, hphase⟩
    · rw [hsame]
      exact hleft
    · rw [hphase]
      exact (hleft.symm.left hk phase).symm
  · unfold Session.resume
    rw [h.calls k hk]
    split
    · exact h
    · split
      · exact h.versionTurn k _ _
      · exact h.awaitEngine k _ _
      · exact h

theorem fetched (h : s.Alike gone t) (hspares : s.SparesVersions gone) (k : Nat)
    (answer : Except MetadataCause String) :
    (s.fetched k answer).Alike gone (t.fetched k answer) := by
  by_cases hk : gone k
  · have hspares' : t.SparesVersions gone := fun j request hj hrequest =>
      hspares j request hj (h.requests ▸ hrequest)
    rw [hspares.fetched hk, hspares'.fetched hk]
    exact h
  · unfold Session.fetched
    rw [h.calls k hk]
    split
    · rename_i adapter release _
      rw [finishVersion_eq s k adapter release, finishVersion_eq t k adapter release]
      exact h.conclude k _ _
    · exact h

theorem withEngines (h : s.Alike gone t) (change : EngineSet → EngineSet) :
    Alike gone { s with engines := change s.engines } { t with engines := change t.engines } :=
  ⟨congrArg change h.engines, h.versions, h.started, h.requests, h.calls⟩

end Alike

end Session

/-- A caller gives up. -/
def Event.isCancel : Event → Bool
  | .cancel _ => true
  | _ => false

namespace Session.Alike

variable {gone : Nat → Prop} {s t : Session}

/-- An event in both sessions. -/
theorem step (h : s.Alike gone t) (hspares : s.SparesVersions gone) {event : Event}
    (hevent : event.isCancel = false) : (s.step event).Alike gone (t.step event) := by
  cases event with
  | call request => exact h.start request
  | cancel k => cases hevent
  | resume k => exact h.resume hspares k
  | lookUp release => exact h.withEngines fun engines => engines.lookUp release
  | invalidate release => exact h.withEngines fun engines => engines.modify release _
  | acquired release acquisition ending =>
    exact h.withEngines fun engines => engines.finish release acquisition ending
  | fetched k answer => exact h.fetched hspares k answer

/-- A cancellation in one of them. -/
theorem cancel (h : s.Alike gone t) (hspares : s.SparesVersions gone) {k : Nat} (hk : gone k) :
    (s.step (.cancel k)).Alike gone t := by
  rcases hspares.cancel hk with hsame | hphase
  · rw [Session.step, hsame]
    exact h
  · rw [Session.step, hphase]
    exact h.left hk _

/-- **The cancellations of loads and parses can be left out of a run.** -/
theorem run (package : String) {events : List Event}
    (hspares : ∀ k request, .cancel k ∈ events →
      (events.filterMap Event.asked?)[k]? = some request → request.isVersion = false) :
    ((new package).run events).Alike (fun k => .cancel k ∈ events)
      ((new package).run (events.filter fun event => !event.isCancel)) := by
  induction events using List.reverseRecOn with
  | nil => exact refl _ _
  | append_singleton events event ih =>
    have hasked : ∀ (k : Nat) request, (events.filterMap Event.asked?)[k]? = some request →
        ((events ++ [event]).filterMap Event.asked?)[k]? = some request := by
      intro k request h
      rw [List.filterMap_append, List.getElem?_append_left (List.getElem?_eq_some_iff.mp h).1, h]
    have hfront := ih fun k request hk hrequest =>
      hspares k request (List.mem_append_left _ hk) (hasked k request hrequest)
    have hbefore : ((new package).run events).Alike (fun k => .cancel k ∈ events ++ [event])
        ((new package).run (events.filter fun event => !event.isCancel)) :=
      hfront.mono fun k hk => List.mem_append_left _ hk
    -- Tickets are stable, so what is spared can be read off the whole run.
    have hspares' : ((new package).run events).SparesVersions fun k =>
        .cancel k ∈ events ++ [event] := by
      intro k request hk hrequest
      rw [requests_run] at hrequest
      exact hspares k request hk (hasked k request hrequest)
    rw [run_concat, List.filter_append]
    cases hevent : event.isCancel with
    | false =>
      rw [List.filter_cons_of_pos (by simp [hevent]), List.filter_nil, run_concat]
      exact hbefore.step hspares' hevent
    | true =>
      rw [List.filter_cons_of_neg (by simp [hevent]), List.filter_nil, List.append_nil]
      cases event with
      | cancel k => exact hbefore.cancel hspares' (List.mem_append_right _ List.mem_cons_self)
      | _ => cases hevent

end Session.Alike

namespace Session

/-- **Cancellation is invisible to others.** In every run in which no call for a version is given
up:

* up to every point of it, leaving out all cancellations gives the same loaders, with their states
  and counts, the same work started, and the same to every call that was not given up;
* an acquisition that runs for the current epoch of a release, be nobody left to wait for it, ends
  as ever. Up to the next invalidation of the release the loader shows how it has ended, and a load
  or a parse gets the reply to that at once and starts nothing. -/
theorem cancellation_invisible (package : String) (events : List Event)
    (hspares : ∀ k request, .cancel k ∈ events →
      (events.filterMap Event.asked?)[k]? = some request → request.isVersion = false) :
    (∀ before, before <+: events →
      let s := (new package).run before
      let t := (new package).run (before.filter fun event => !event.isCancel)
      s.engines = t.engines ∧ s.started = t.started ∧
      ∀ k, .cancel k ∉ before → s.calls[k]? = t.calls[k]?) ∧
    ∀ release i ending,
      let s := (new package).run events
      let loader := s.engines.loader release
      loader.started[i]? = some ⟨loader.epoch, .silent⟩ →
      ∀ span, .invalidate release ∉ span →
        let u := (s.step (.acquired release i ending)).run span
        (u.engines.loader release).state = ending.shown ∧
        ∀ request : Request, request.isVersion = false → request.refusal? = none →
          request.release = release →
          let v := u.step (.call request)
          let reply := ending.reply package release loader.epoch
          v.calls[u.calls.length]? = some ⟨request, (request.verdict reply).phase⟩ ∧
          v.started = u.started ∧
          (v.engines.loader release).acquisitions = loader.acquisitions := by
  constructor
  · rintro before ⟨later, rfl⟩ s t
    have halike : s.Alike (fun k => .cancel k ∈ before) t := by
      refine Alike.run package fun k request hk hrequest => ?_
      refine hspares k request (List.mem_append_left later hk) ?_
      rw [List.filterMap_append,
        List.getElem?_append_left (List.getElem?_eq_some_iff.mp hrequest).1, hrequest]
    exact ⟨halike.engines, halike.started, halike.calls⟩
  · intro release i ending s loader hrun span hspan u
    have hu : u = (new package).run (events ++ .acquired release i ending :: span) := by
      rw [List.append_cons, ← run_append, run_concat]
    have hloader : ((new package).run (events ++ .acquired release i ending :: span)).engines.loader
        release = u.engines.loader release := by rw [hu]
    obtain ⟨hended, hepoch, hcount⟩ := Runs.ended_span rfl hrun ending hspan hloader
    refine ⟨hended.state hloader, ?_⟩
    rintro request hversion hrefusal rfl v reply
    obtain ⟨hcall, hstarted⟩ := hended.start hloader hversion hrefusal
    rw [← hu, hepoch] at hcall
    rw [← hu] at hstarted
    have hv : ((new package).run
        (events ++ .acquired request.release i ending :: span ++ [.call request])).engines.loader
          request.release = v.engines.loader request.release := by
      rw [run_concat, ← hu]
    exact ⟨hcall, hstarted, (hended.kept_step hloader (by simp) hv).2.trans hcount⟩

/-- The load that started the acquisition is given up; the one that has joined it fails as it would
have without that. -/
theorem cancellation_invisible_to_joined :
    let cause : LoadCause := .reported "registry unreachable" []
    let events : List Event := [.call (.load none), .call (.load none), .cancel 0,
      .acquired none 0 (.failed cause), .resume 0, .resume 1]
    (∀ k request, .cancel k ∈ events →
      (events.filterMap Event.asked?)[k]? = some request → request.isVersion = false) ∧
    ((new "stub").run (events.filter fun event => !event.isCancel)).calls[1]? =
      some ⟨.load none, .finished (.failure (.engineLoad "stub" cause))⟩ := by
  intro cause events
  have hspares : ∀ k request, .cancel k ∈ events →
      (events.filterMap Event.asked?)[k]? = some request → request.isVersion = false := by
    intro k request hk hrequest
    obtain rfl : k = 0 := by simpa [events] using hk
    cases hrequest
    rfl
  refine ⟨hspares, ?_⟩
  have hsame := ((cancellation_invisible "stub" events hspares).1 events List.prefix_rfl).2.2 1
    (by simp [events])
  exact hsame.symm.trans rfl

end Session

end Arboretum
