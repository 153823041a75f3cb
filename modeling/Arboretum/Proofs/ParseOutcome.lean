import Arboretum.Proofs.Negotiation
import Arboretum.Proofs.VersionCache

/-!
# What a parse comes to

A parse is refused before anything is looked up, or it is bound to the acquisition of the epoch in
which it came and is answered by how that ends. Nothing else in the session has a part in its reply.

* `Adapter.prepare_of_allowed`: at an allowed release a parse is refused for its options only.
* `Session.Bound`: a call stands at the acquisition of its epoch. By `Session.bound_start`,
  `Bound.step` and `Bound.run` it does so from its start on, until it is given up.
* `Session.Bound.stands`, `Session.Bound.resume`: until the end of that it waits, and after it the
  call gets its reply.
* `Session.parse_outcome`: all that can become of a parse.
-/

namespace Arboretum

/-! ## Refusals -/

/-- The end of the acquisition that a call waits for decides its reply. -/
def Request.AnswersBy (request : Request) (reply : Ending → Reply) (package : String)
    (epoch : Nat) : Prop :=
  ∀ ending : Ending,
    request.verdict (ending.reply package request.release epoch) = .ends (reply ending)

namespace Adapter

variable {a : Adapter} {user : Option OptionsValue} {release : Release}

theorem checkOverride_of_allowed (h : release = none ∨ a.versionOverridable = true) :
    a.checkOverride release = .ok () := by
  cases release with
  | none => rfl
  | some version =>
    have hallowed := h.resolve_left (by simp)
    rw [checkOverride, if_pos hallowed]

theorem prepare_of_forbidden {version : String} (h : a.versionOverridable = false) :
    a.prepare user (some version) = .error (.versionNotOverridable a.id version) := by
  rw [prepare, checkOverride, if_neg (by simp [h])]
  rfl

theorem prepare_of_allowed (h : release = none ∨ a.versionOverridable = true) :
    a.prepare user release =
      match a.options.resolve user with
      | .ok fields => .ok (.obj fields)
      | .error cause => .error (.invalidOptions cause) := by
  rw [prepare, checkOverride_of_allowed h]
  rfl

theorem prepare_eq_ok_iff :
    (∃ options, a.prepare user release = .ok options) ↔
      (release = none ∨ a.versionOverridable = true) ∧
        ∃ options, a.options.resolve user = .ok options := by
  by_cases hallowed : release = none ∨ a.versionOverridable = true
  · rw [prepare_of_allowed hallowed]
    cases a.options.resolve user with
    | ok options => simp [hallowed]
    | error cause => simp
  · rw [not_or, Bool.not_eq_true] at hallowed
    obtain ⟨version, rfl⟩ := Option.ne_none_iff_exists'.mp hallowed.1
    rw [prepare_of_forbidden hallowed.2]
    simp [hallowed.2]

/-- The reply to a parse, by how the acquisition that it waits for ends. -/
def parsed (a : Adapter) (package code : String) (options : Json) : Ending → Reply
  | .acquired engine =>
    match a.parse engine code options with
    | .ok tree => .tree tree
    | .error diagnostic => .failure (.engineParse a.id diagnostic)
  | .failed cause => .failure (.engineLoad package cause)
  | .abandoned => .failure (.engineLoad package .abandoned)

theorem answersBy_parsed {options : Json} (h : a.prepare user release = .ok options)
    (package code : String) (epoch : Nat) :
    (Request.parse a code user release).AnswersBy (a.parsed package code options) package
      epoch := by
  intro ending
  cases ending with
  | failed cause => rfl
  | abandoned => rfl
  | acquired engine =>
    simp only [Ending.reply, Request.release, Request.verdict, h, parsed]
    cases hparse : a.parse engine code options with
    | ok tree => simp [bind, Except.bind, parseWith, hparse, Reply.ofTree]
    | error diagnostic => simp [bind, Except.bind, parseWith, hparse, Reply.ofTree]

end Adapter

/-! ## The acquisition of a call -/

namespace Loader.Sound

variable {loader : Loader}

theorem load (h : loader.Sound) : loader.load.1.Sound := by
  obtain ⟨endings, busy, hfits⟩ := h
  exact ⟨endings, _, hfits.load⟩

/-- A call that loads comes to what one comes to that waits for the acquisition of the epoch. -/
theorem afterLoad (h : loader.Sound) (request : Request) :
    ∃ (i : Nat) (channel : Channel), loader.load.1.started[i]? = some ⟨loader.epoch, channel⟩ ∧
      request.afterLoad loader = request.afterWait loader.load.1 i := by
  obtain ⟨endings, busy, hfits⟩ := h
  have hslot := hfits.slot
  unfold Request.afterLoad
  cases hcurrent : loader.current with
  | absent =>
    rw [load_of_absent hcurrent]
    refine ⟨loader.started.length, .silent, ?_, rfl⟩
    rw [spawn, List.getElem?_concat_length]
  | loading i =>
    rw [hcurrent] at hslot
    obtain ⟨channel, hi, -⟩ := hslot
    rw [load_of_loading hcurrent]
    exact ⟨i, channel, hi, rfl⟩
  | settled outcome =>
    rw [hcurrent] at hslot
    obtain ⟨i, hi⟩ := hslot
    rw [load_of_settled hcurrent]
    refine ⟨i, .sent outcome, hi, ?_⟩
    simp only [Request.afterWait, received?, hi]

end Loader.Sound

namespace Session

/-- **A call stands at the acquisition of an epoch**: it waits for that or has its reply. -/
def Bound (s : Session) (request : Request) (reply : Ending → Reply) (epoch k : Nat) : Prop :=
  ∃ (i : Nat) (channel : Channel),
    (s.engines.loader request.release).started[i]? = some ⟨epoch, channel⟩ ∧
    (s.calls[k]? = some ⟨request, .loading i⟩ ∨
      ∃ ending : Ending, channel = ending.channel request.release epoch ∧
        s.calls[k]? = some ⟨request, .finished (reply ending)⟩)

section Calls

variable {package : String} {s : Session} {request : Request} {reply : Ending → Reply}
  {epoch k : Nat} {phase : Phase} {events : List Event}

/-- A call looks at the channel of the acquisition. -/
theorem bound_wait (hprovides : s.Provides package request.release)
    (hreply : request.AnswersBy reply package epoch)
    (hk : s.calls[k]? = some ⟨request, phase⟩) {i : Nat} {channel : Channel}
    (hi : (s.engines.loader request.release).started[i]? = some ⟨epoch, channel⟩) :
    (s.conclude k request
      (request.afterWait (s.engines.loader request.release) i)).Bound request reply epoch k := by
  obtain ⟨hsound, hpackage, hrelease⟩ := hprovides
  refine ⟨i, channel, hi, ?_⟩
  rw [getElem?_conclude hk]
  rcases hsound.channel hi with rfl | ⟨ending, rfl⟩
  · rw [Request.afterWait_of_silent hi]
    exact .inl rfl
  · rw [Request.afterWait_of_ended hi, hpackage, hrelease, hreply]
    exact .inr ⟨ending, rfl, rfl⟩

/-- **From its start on a call is bound to the acquisition of the epoch.** -/
theorem bound_start (hprovides : s.Provides package request.release)
    (hversion : request.isVersion = false) (hrefusal : request.refusal? = none)
    (hreply : request.AnswersBy reply package (s.engines.loader request.release).epoch) :
    (s.start request).Bound request reply (s.engines.loader request.release).epoch
      s.calls.length := by
  obtain ⟨hsound, hpackage, hrelease⟩ := hprovides
  obtain ⟨i, channel, hi, hafter⟩ := hsound.afterLoad request
  have hentered : ((s.enlist request).enter request.release).engines.loader request.release =
      (s.engines.loader request.release).load.1 := by
    rw [loader_enter, if_pos rfl]
    rfl
  have hprovides' : ((s.enlist request).enter request.release).Provides package
      request.release := by
    constructor <;> rw [hentered]
    · exact hsound.load
    · rw [Loader.package_load, hpackage]
    · rw [Loader.release_load, hrelease]
  have hnew : ((s.enlist request).enter request.release).calls[s.calls.length]? =
      some ⟨request, .queued⟩ := by
    refine (s.getElem?_enlist request s.calls.length).trans ?_
    rw [if_pos rfl]
  rw [start_of_not_version hversion hrefusal, loadEngine_eq]
  have hsame : (s.enlist request).engines.loader request.release =
      s.engines.loader request.release := rfl
  rw [hsame, hafter, ← hentered]
  exact bound_wait hprovides' hreply hnew (hentered ▸ hi)

namespace Bound

/-- A call stays bound to its acquisition by every event but that it is given up. -/
theorem step (h : s.Bound request reply epoch k) (hprovides : s.Provides package request.release)
    (hreply : request.AnswersBy reply package epoch)
    {event : Event} (hevent : event ≠ .cancel k) :
    (s.step event).Bound request reply epoch k := by
  obtain ⟨i, channel, hi, hcall⟩ := h
  obtain ⟨shown, hshown, hkept⟩ := (s.loader_step event request.release).started hi
  rcases hcall with hwaits | ⟨ending, rfl, hfinished⟩
  · -- Only going on moves a call that waits; whatever else happens, its acquisition is still there.
    by_cases hticket : event.ticket? = some k
    · cases event with
      | cancel j =>
        cases hticket
        exact absurd rfl hevent
      | resume j =>
        cases hticket
        simp only [Session.step, resume, hwaits, awaitEngine_eq]
        exact bound_wait hprovides hreply hwaits hi
      | fetched j answer =>
        cases hticket
        simp only [Session.step, fetched, hwaits]
        exact ⟨i, channel, hi, .inl hwaits⟩
      | _ => cases hticket
    · refine ⟨i, shown, hshown, .inl ?_⟩
      rw [getElem?_step_of_ne s (List.getElem?_eq_some_iff.mp hwaits).1 hticket, hwaits]
  · rw [hkept (Ending.channel_ne_silent _ _ _)] at hshown
    exact ⟨i, _, hshown, .inr ⟨ending, rfl, getElem?_step_of_finished hfinished hevent⟩⟩

theorem run (h : ((new package).run events).Bound request reply epoch k)
    (hreply : request.AnswersBy reply package epoch)
    {later : List Event} (hlater : .cancel k ∉ later) :
    ((new package).run (events ++ later)).Bound request reply epoch k := by
  induction later using List.reverseRecOn with
  | nil =>
    rw [List.append_nil]
    exact h
  | append_singleton later event ih =>
    rw [List.mem_append, not_or, List.mem_singleton] at hlater
    rw [← List.append_assoc, run_concat]
    exact (ih hlater.1).step (provides_run package _ request.release) hreply
      fun heq => hlater.2 heq.symm

/-- **A bound call waits for an acquisition that runs or has ended, or has its reply.** -/
theorem stands (h : ((new package).run events).Bound request reply epoch k) :
    let s := (new package).run events
    (∃ i, s.calls[k]? = some ⟨request, .loading i⟩ ∧
      (s.Runs request.release i epoch ∨
        ∃ ending, Ended package events request.release i epoch ending)) ∨
    ∃ i ending, Ended package events request.release i epoch ending ∧
      s.calls[k]? = some ⟨request, .finished (reply ending)⟩ := by
  obtain ⟨i, channel, hi, hwaits | ⟨ending, rfl, hfinished⟩⟩ := h
  · exact .inl ⟨i, hwaits, runs_or_ended hi⟩
  · exact .inr ⟨i, ending, ended_iff.mpr hi, hfinished⟩

/-- A call has its reply only after the end of its acquisition. -/
theorem ended_of_finished (h : ((new package).run events).Bound request reply epoch k)
    {answer : Reply}
    (hk : ((new package).run events).calls[k]? = some ⟨request, .finished answer⟩) :
    ∃ i ending, Ended package events request.release i epoch ending ∧ answer = reply ending := by
  rcases h.stands with ⟨i, hwaits, -⟩ | ⟨i, ending, hended, hfinished⟩
  · rw [hk] at hwaits
    cases hwaits
  · rw [hk] at hfinished
    cases hfinished
    exact ⟨i, ending, hended, rfl⟩

/-- **After the end of the acquisition it gets its reply.** -/
theorem resume (h : ((new package).run events).Bound request reply epoch k)
    (hreply : request.AnswersBy reply package epoch) {j : Nat} {ending : Ending}
    (hended : Ended package events request.release j epoch ending) :
    (((new package).run events).step (.resume k)).calls[k]? =
      some ⟨request, .finished (reply ending)⟩ := by
  obtain ⟨i, channel, hi, hcall⟩ := h
  -- An epoch acquires at most once, so what has ended is what the call stands at.
  have hj := ended_iff.mp hended
  obtain rfl := (provides_run package events request.release).sound.index_inj hi hj
  rw [hi] at hj
  cases hj
  rcases hcall with hwaits | ⟨other, hother, hfinished⟩
  · simp only [Session.step, Session.resume, hwaits, awaitEngine_eq, hended.afterWait,
      hreply ending]
    exact getElem?_conclude hwaits request _
  · rw [Ending.channel_injective request.release epoch hother]
    exact getElem?_step_of_finished hfinished (by simp)

end Bound

end Calls

section Parses

variable {package : String} {adapter : Adapter} {code : String} {user : Option OptionsValue}
  {release : Release}

/-- **What stands of a parse that was not given up**: the failure it was refused with, or it is
bound to the acquisition of the epoch in which it came. -/
theorem parse_stands (package : String) (adapter : Adapter) (code : String)
    (user : Option OptionsValue) (release : Release) (events : List Event) {later : List Event}
    (hlater : .cancel ((new package).run events).calls.length ∉ later) :
    let s := (new package).run events
    let request : Request := .parse adapter code user release
    let u := (new package).run (events ++ .call request :: later)
    match adapter.prepare user release with
    | .error e => u.calls[s.calls.length]? = some ⟨request, .finished (.failure e)⟩
    | .ok options =>
      u.Bound request (adapter.parsed package code options) (s.engines.loader release).epoch
        s.calls.length := by
  intro s request u
  have hstep : (new package).run (events ++ [.call request]) = s.start request :=
    run_concat _ _ _
  cases hprepare : adapter.prepare user release with
  | error e =>
    have hrefusal : request.refusal? = some e := by
      simp only [request, Request.refusal?, hprepare]
    have hnew : (s.start request).calls[s.calls.length]? =
        some ⟨request, .finished (.failure e)⟩ := by
      rw [start_eq_of_refused hrefusal]
      exact List.getElem?_concat_length
    have hkept := getElem?_run_of_finished hnew hlater
    rwa [← hstep, run_append, ← List.append_cons] at hkept
  | ok options =>
    have hrefusal : request.refusal? = none := by
      simp only [request, Request.refusal?, hprepare]
    have hreply := Adapter.answersBy_parsed hprepare package code (s.engines.loader release).epoch
    have hbound : (s.start request).Bound request (adapter.parsed package code options)
        (s.engines.loader release).epoch s.calls.length :=
      bound_start (provides_run package events release) rfl hrefusal hreply
    rw [← hstep] at hbound
    have hrun := hbound.run hreply hlater
    rwa [← List.append_cons] at hrun

/-- **The reply to a parse depends on the end of its acquisition alone**, not on what else was
called in its session. -/
theorem parse_reply_alike (events later events' later' : List Event) :
    let request : Request := .parse adapter code user release
    let s := (new package).run events
    let s' := (new package).run events'
    let all := events ++ .call request :: later
    let all' := events' ++ .call request :: later'
    .cancel s.calls.length ∉ later → .cancel s'.calls.length ∉ later' →
    (∀ ending, (∃ i, Ended package all release i (s.engines.loader release).epoch ending) ↔
      ∃ i, Ended package all' release i (s'.engines.loader release).epoch ending) →
    ∀ reply reply',
      ((new package).run all).calls[s.calls.length]? = some ⟨request, .finished reply⟩ →
      ((new package).run all').calls[s'.calls.length]? = some ⟨request, .finished reply'⟩ →
      reply = reply' := by
  intro request s s' all all' hlater hlater' halike reply reply' hreply hreply'
  have hstands := parse_stands package adapter code user release events hlater
  have hstands' := parse_stands package adapter code user release events' hlater'
  cases hprepare : adapter.prepare user release with
  | error e =>
    simp only [hprepare] at hstands hstands'
    have hsame := hreply.symm.trans hstands
    have hsame' := hreply'.symm.trans hstands'
    cases hsame
    cases hsame'
    rfl
  | ok options =>
    simp only [hprepare] at hstands hstands'
    obtain ⟨i, ending, hended, rfl⟩ := hstands.ended_of_finished hreply
    obtain ⟨i', ending', hended', rfl⟩ := hstands'.ended_of_finished hreply'
    obtain ⟨j, hj⟩ := (halike ending).mp ⟨i, hended⟩
    rw [(hj.unique hended').2]

/-- **What a parse comes to.** After every run, for a parse by any adapter at any release:

* a release that the host may not choose is refused under the adapter's id; otherwise options are
  refused with the error of the default ones or, where the host may set any, of those of the user.
  A refused parse changes nothing in the session but that it is there with its failure;
* any other parse is bound to the acquisition of the epoch in which it came. If that has ended the
  parse gets its reply at once and no work is started. Otherwise it waits for it and, unless it is
  given up, has no reply before the end and gets it when it goes on after that;
* the reply is the failure of the acquisition, or what the parse operation makes of the engine, the
  code and the resolved options, a diagnostic being reported under the adapter's id, also if that
  was derived from another;
* two parses for which the acquisition ends alike get the same reply, whatever else was called in
  their sessions. -/
theorem parse_outcome (package : String) (events : List Event) (adapter : Adapter) (code : String)
    (user : Option OptionsValue) (release : Release) :
    let s := (new package).run events
    let epoch := (s.engines.loader release).epoch
    let request : Request := .parse adapter code user release
    let k := s.calls.length
    let t := s.step (.call request)
    let refused := fun e : Error =>
      { s with calls := s.calls ++ [⟨request, .finished (.failure e)⟩] }
    (∀ version, release = some version → adapter.versionOverridable = false →
      t = refused (.versionNotOverridable adapter.id version)) ∧
    ((release = none ∨ adapter.versionOverridable = true) →
      (∀ cause, adapter.options.Refuses user cause → t = refused (.invalidOptions cause)) ∧
      ((∀ cause, ¬ adapter.options.Refuses user cause) →
        ∃ options, adapter.options.resolve user = .ok options ∧
          let reply := adapter.parsed package code (.obj options)
          (∀ i ending, Ended package events release i epoch ending →
            t.calls[k]? = some ⟨request, .finished (reply ending)⟩ ∧ t.started = s.started) ∧
          ∀ later, .cancel k ∉ later →
            let all := events ++ .call request :: later
            let u := (new package).run all
            ((∃ i, u.calls[k]? = some ⟨request, .loading i⟩ ∧
                (u.Runs release i epoch ∨ ∃ ending, Ended package all release i epoch ending)) ∨
              ∃ i ending, Ended package all release i epoch ending ∧
                u.calls[k]? = some ⟨request, .finished (reply ending)⟩) ∧
            (∀ i ending, u.Runs release i epoch →
              ((u.step (.acquired release i ending)).step (.resume k)).calls[k]? =
                some ⟨request, .finished (reply ending)⟩) ∧
            ∀ i ending, Ended package all release i epoch ending →
              (u.step (.resume k)).calls[k]? = some ⟨request, .finished (reply ending)⟩)) ∧
    (∀ (id label : String) (engine : Engine) (options : Json) (diagnostic : Diagnostic),
      adapter.parse engine code options = .error diagnostic →
      (adapter.derive id label).parsed package code options (.acquired engine) =
        .failure (.engineParse id diagnostic)) ∧
    ∀ later events' later',
      let s' := (new package).run events'
      let all := events ++ .call request :: later
      let all' := events' ++ .call request :: later'
      .cancel k ∉ later → .cancel s'.calls.length ∉ later' →
      (∀ ending, (∃ i, Ended package all release i epoch ending) ↔
        ∃ i, Ended package all' release i (s'.engines.loader release).epoch ending) →
      ∀ reply reply',
        ((new package).run all).calls[k]? = some ⟨request, .finished reply⟩ →
        ((new package).run all').calls[s'.calls.length]? = some ⟨request, .finished reply'⟩ →
        reply = reply' := by
  intro s epoch request k t refused
  have hrefused : ∀ e, adapter.prepare user release = .error e → t = refused e := by
    intro e hprepare
    have hrefusal : request.refusal? = some e := by
      simp only [request, Request.refusal?, hprepare]
    exact start_eq_of_refused hrefusal s
  refine ⟨?_, fun hallowed => ⟨?_, ?_⟩, ?_, fun later events' later' =>
    parse_reply_alike events later events' later'⟩
  · rintro version rfl hforbidden
    exact hrefused _ (Adapter.prepare_of_forbidden hforbidden)
  · intro cause hcause
    refine hrefused _ ?_
    rw [Adapter.prepare_of_allowed hallowed, OptionsDescriptor.resolve_eq_error_iff.mpr hcause]
  · intro haccepted
    cases hresolve : adapter.options.resolve user with
    | error cause =>
      exact absurd (OptionsDescriptor.resolve_eq_error_iff.mp hresolve) (haccepted cause)
    | ok options =>
      have hprepare : adapter.prepare user release = .ok (.obj options) := by
        rw [Adapter.prepare_of_allowed hallowed, hresolve]
      have hreply := Adapter.answersBy_parsed hprepare package code epoch
      refine ⟨options, rfl, ?_, ?_⟩
      · intro i ending hended
        have hrefusal : request.refusal? = none := by
          simp only [request, Request.refusal?, hprepare]
        obtain ⟨hcall, hstarted⟩ := hended.start rfl rfl hrefusal
        exact ⟨hcall.trans (congrArg (fun v => some (Call.mk request v.phase)) (hreply ending)),
          hstarted⟩
      · intro later hlater all u
        have hbound : ∀ more, .cancel k ∉ more → ((new package).run
            (events ++ .call request :: more)).Bound request
              (adapter.parsed package code (.obj options)) epoch k := by
          intro more hmore
          have hstands := parse_stands package adapter code user release events hmore
          simpa only [hprepare] using hstands
        refine ⟨(hbound later hlater).stands, ?_, fun i ending hended =>
          (hbound later hlater).resume hreply hended⟩
        intro i ending hruns
        have hended := hruns.ended ending
        have hmore := hbound (later ++ [.acquired release i ending]) (by simpa using hlater)
        rw [← List.cons_append, ← List.append_assoc] at hmore
        have hresumed := hmore.resume hreply hended
        rwa [run_concat] at hresumed
  · intro id label engine options diagnostic hdiagnostic
    simp only [Adapter.derive, Adapter.parsed, hdiagnostic]

/-- A parse that waits gets the tree if an engine is acquired, and fails with the cause if the
acquisition fails. A parse that comes after the failure fails with it at once, and no work is
started. -/
theorem parse_outcome_by_ending :
    let adapter : Adapter :=
      { id := "stub", label := "Stub", editorLanguage := "stub", package := "stub" }
    let engine : Engine := .ofParse "stub" none fun code _ => .ok (.str code)
    let cause : LoadCause := .reported "registry unreachable" []
    let request : Request := .parse adapter "let x" none none
    let s := (new "stub").run [.call request]
    let failed : List Event := [.call request, .acquired none 0 (.failed cause)]
    ((s.step (.acquired none 0 (.acquired engine))).step (.resume 0)).calls[0]? =
      some ⟨request, .finished (.tree (.str "let x"))⟩ ∧
    ((s.step (.acquired none 0 (.failed cause))).step (.resume 0)).calls[0]? =
      some ⟨request, .finished (.failure (.engineLoad "stub" cause))⟩ ∧
    (((new "stub").run failed).step (.call request)).calls[1]? =
      some ⟨request, .finished (.failure (.engineLoad "stub" cause))⟩ ∧
    (((new "stub").run failed).step (.call request)).started = [.acquisition none 0] := by
  intro adapter engine cause request s failed
  have haccepted : ∀ cause, ¬ adapter.options.Refuses none cause := by
    intro other hrefuses
    have herror := OptionsDescriptor.resolve_eq_error_iff.mpr hrefuses
    cases herror
  obtain ⟨options, -, -, hwaits⟩ :=
    ((parse_outcome "stub" [] adapter "let x" none none).2.1 (.inl rfl)).2 haccepted
  obtain ⟨-, hends, -⟩ := hwaits [] List.not_mem_nil
  obtain ⟨options', -, hended, -⟩ :=
    ((parse_outcome "stub" failed adapter "let x" none none).2.1 (.inl rfl)).2 haccepted
  obtain ⟨hcall, hstarted⟩ := hended 0 (.failed cause) ⟨[.call request], [], rfl, rfl⟩
  exact ⟨hends 0 (.acquired engine) rfl, hends 0 (.failed cause) rfl, hcall, hstarted⟩

end Parses

end Session

end Arboretum
