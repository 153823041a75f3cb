import Arboretum.Proofs.VersionCache

/-!
# Whose version a call gets

The adapters of a session share its cache of versions, whatever their own sources of a version are.
In a world where every engine and every service has one answer, each adapter has a version of its
own at every release (`World.own?`). A call gets the version of the adapter whose call at the
release was the first to succeed, which need not be its own.

* `Session.comes_step`: how a call for a version can have come to where it stands.
* `World.holds_run`: whatever is under way in a run comes to the version of the adapter asked.
* `World.own_of_found`, `World.first_success`: so does the first success at a release.
* `Session.derived_version_of_base`: an adapter with a source of its own is told the version of the
  one it was derived from.
-/

namespace Arboretum

/-! ## How calls come to their phases -/

namespace Session

variable {s : Session} {event : Event} {release : Release} {k : Nat} {adapter : Adapter}
  {phase old next : Phase}

/-- How a call for a version can have come to a phase by an event. -/
inductive Comes (s : Session) (k : Nat) (adapter : Adapter) (release : Release) :
    Event → Phase → Prop
  | stays {event : Event} {phase : Phase}
      (h : s.calls[k]? = some ⟨.version adapter release, phase⟩) :
    Comes s k adapter release event phase
  | refused {event : Event} {e : Error} :
    Comes s k adapter release event (.finished (.failure e))
  | gone {event : Event} : Comes s k adapter release event .cancelled
  | waits {event : Event} : Comes s k adapter release event .queued
  | takes {event : Event} {text : String} (h : (s.versions.get release).value = some text) :
    Comes s k adapter release event (.finished (.version text))
  | aside {event : Event} {verdict : Verdict} (h : adapter.sideVerdict? release = some verdict) :
    Comes s k adapter release event verdict.phase
  | loads {event : Event} (h : adapter.sideVerdict? release = none) :
    Comes s k adapter release event
      ((Request.version adapter release).afterLoad (s.engines.loader release)).phase
  | awaits {event : Event} {acquisition : Nat}
      (h : s.calls[k]? = some ⟨.version adapter release, .loading acquisition⟩) :
    Comes s k adapter release event
      ((Request.version adapter release).afterWait (s.engines.loader release) acquisition).phase
  | fetched {answer : Except MetadataCause String}
      (h : s.calls[k]? = some ⟨.version adapter release, .fetching⟩) :
    Comes s k adapter release (.fetched k answer)
      (.finished (.ofVersion (Metadata.result adapter.package answer)))

theorem phase_setPhase {request : Request} {call : Call} (hk : s.calls[k]? = some call)
    (h : (s.setPhase k next).calls[k]? = some ⟨request, phase⟩) : phase = next := by
  rw [getElem?_setPhase, if_pos rfl, hk] at h
  cases h
  rfl

/-- How a call comes to a phase by its turn, in a session with the same loaders and known texts. -/
theorem comes_turn {u t : Session} {call : Call}
    (hvalue : (u.versions.get release).value = (s.versions.get release).value)
    (hengines : u.engines = s.engines) (hk : u.calls[k]? = some call)
    (hturn : u.TurnsInto k adapter release t)
    (h : t.calls[k]? = some ⟨.version adapter release, phase⟩) :
    s.Comes k adapter release event phase := by
  cases hturn with
  | known value =>
    rw [phase_setPhase hk h]
    exact .takes (hvalue.symm.trans value)
  | waits value =>
    rw [phase_setPhase hk h]
    exact .waits
  | aside value head side =>
    rw [phase_setPhase hk h]
    exact .aside side
  | loads value head side =>
    have hk' : (u.enter release).calls[k]? = some call := hk
    rw [phase_setPhase hk' h, hengines]
    exact .loads side

theorem comes_cancel (hk : s.calls[k]? = some ⟨.version adapter release, old⟩)
    (h : (s.cancel k).calls[k]? = some ⟨.version adapter release, phase⟩) :
    s.Comes k adapter release event phase := by
  have hphase : phase = .cancelled := by
    simp only [cancel, hk] at h
    cases old <;> exact phase_setPhase hk h
  rw [hphase]
  exact .gone

theorem comes_resume (hk : s.calls[k]? = some ⟨.version adapter release, old⟩)
    (h : (s.resume k).calls[k]? = some ⟨.version adapter release, phase⟩) :
    s.Comes k adapter release event phase := by
  simp only [resume, hk] at h
  cases old with
  | queued => exact comes_turn rfl rfl hk (s.turnsInto_versionTurn k adapter release) h
  | loading acquisition =>
    simp only [awaitEngine_eq] at h
    rw [phase_setPhase hk h]
    exact .awaits hk
  | fetching => exact .stays h
  | finished reply => exact .stays h
  | cancelled => exact .stays h

theorem comes_fetched {answer : Except MetadataCause String}
    (hk : s.calls[k]? = some ⟨.version adapter release, old⟩)
    (h : (s.fetched k answer).calls[k]? = some ⟨.version adapter release, phase⟩) :
    s.Comes k adapter release (.fetched k answer) phase := by
  simp only [Session.fetched, hk] at h
  cases old with
  | fetching =>
    simp only [finishVersion_eq s k adapter release] at h
    rw [phase_setPhase hk h]
    exact .fetched hk
  | queued => exact .stays h
  | loading acquisition => exact .stays h
  | finished reply => exact .stays h
  | cancelled => exact .stays h

theorem comes_start {t : Session} (hstart : s.StartsAs (.version adapter release) t)
    (h : t.calls[s.calls.length]? = some ⟨.version adapter release, phase⟩) :
    s.Comes s.calls.length adapter release event phase := by
  have hnew : (s.enlist (.version adapter release)).calls[s.calls.length]? =
      some ⟨.version adapter release, .queued⟩ := by
    rw [getElem?_enlist, if_pos rfl]
  cases hstart with
  | refused =>
    rw [phase_setPhase hnew h]
    exact .refused
  | loads version => cases version
  | turns version turn =>
    cases version
    have hjoined := calls_joinQueue (s.enlist (.version adapter release)) s.calls.length release
    exact comes_turn (value_joinQueue (s.enlist _) _ _ _) (engines_joinQueue (s.enlist _) _ _)
      (hjoined ▸ hnew) turn h

/-- **How a call for a version can have come to where it stands.** -/
theorem comes_step (h : (s.step event).calls[k]? = some ⟨.version adapter release, phase⟩) :
    s.Comes k adapter release event phase := by
  have hrequest := getElem?_requests h
  rw [requests_step, List.getElem?_append] at hrequest
  split at hrequest
  · rename_i hlt
    rw [requests, List.getElem?_map] at hrequest
    obtain ⟨⟨request, old⟩, hk, hasked⟩ := Option.map_eq_some_iff.mp hrequest
    obtain rfl : request = .version adapter release := hasked
    by_cases hticket : event.ticket? = some k
    · cases event with
      | cancel j =>
        cases hticket
        exact comes_cancel hk h
      | resume j =>
        cases hticket
        exact comes_resume hk h
      | fetched j answer =>
        cases hticket
        exact comes_fetched hk h
      | _ => cases hticket
    · rw [getElem?_step_of_ne s (List.getElem?_eq_some_iff.mp hk).1 hticket] at h
      exact .stays h
  · rename_i hle
    cases event with
    | call request =>
      rw [Event.asked?, Option.toList_some, List.getElem?_singleton] at hrequest
      split at hrequest
      · rename_i hk
        obtain rfl : k = s.calls.length := by
          rw [requests, List.length_map] at hk hle
          omega
        cases hrequest
        exact comes_start (s.startsAs_start _) h
      · cases hrequest
    | _ => cases hrequest

end Session

/-! ## Worlds with one answer -/

/-- The side channel that is asked of a service. -/
def VersionSource.service? : VersionSource → Option String
  | .metadata (.remote service) | .engineOrMetadata (.remote service) => some service
  | _ => none

/-- A world in which the engine of each release reports one version, if any, and each service has
one answer for a package. -/
structure World where
  reports : Release → Option String
  answers : (service package : String) → String

namespace World

/-- The version of a package by a side channel. -/
def metadata? (w : World) (package : String) : Metadata → Option String
  | .manifest contents => (Metadata.readManifest package contents).toOption
  | .remote service => some (w.answers service package)

/-- **The version that an adapter's own source has for a release.** -/
def own? (w : World) (adapter : Adapter) (release : Release) : Option String :=
  let aside (source : Metadata) : Option String :=
    (w.metadata? adapter.package source).map Text.trim
  let version := match adapter.versionSource with
    | .metadata source => release <|> aside source
    | .engine => (w.reports release <|> release) <|> some "unknown"
    | .engineOrMetadata source => (w.reports release <|> release) <|> aside source
  version.map (versionText adapter.package)

/-- What may happen in this world when these are the calls. Acquisitions and fetches may fail. -/
def Allows (w : World) (requests : List Request) : Event → Prop
  | .acquired release _ (.acquired engine) => engine.version = w.reports release
  | .fetched k (.ok version) => ∀ adapter release service,
    requests[k]? = some (.version adapter release) →
    adapter.versionSource.service? = some service → version = w.answers service adapter.package
  | _ => True

/-- A run of this world. -/
def Faithful (w : World) (events : List Event) : Prop :=
  ∀ event ∈ events, w.Allows (events.filterMap Event.asked?) event

end World

/-! ## What is under way -/

/-- Where a call for a version can stand that comes to the adapter's own version, if to any. -/
def Phase.Suits (w : World) (adapter : Adapter) (release : Release) : Phase → Prop
  | .loading _ => adapter.sideVerdict? release = none
  | .fetching => ∃ service, adapter.versionSource.service? = some service ∧
    w.own? adapter release =
      some (versionText adapter.package (Text.trim (w.answers service adapter.package)))
  | .finished (.version text) => w.own? adapter release = some text
  | _ => True

/-- A loader whose engines report a version. -/
def Loader.Reports (loader : Loader) (version : Option String) : Prop :=
  ∀ acquisition ∈ loader.started, ∀ handle, acquisition.channel = .sent (.ok handle) →
    handle.engine.version = version

namespace Loader.Reports

variable {loader : Loader} {version : Option String}

theorem received (h : loader.Reports version) {i : Nat} {handle : Handle}
    (hr : loader.received? i = some (.ok handle)) : handle.engine.version = version := by
  unfold Loader.received? at hr
  split at hr
  · rename_i outcome hi
    cases outcome with
    | ok sent =>
      cases hr
      exact h _ (List.mem_of_getElem? hi) _ rfl
    | error cause => cases hr
  · cases hr
  · cases hr

theorem settled (h : loader.Reports version) (hsound : loader.Sound) {handle : Handle}
    (hcurrent : loader.current = .settled (.ok handle)) : handle.engine.version = version := by
  obtain ⟨endings, busy, hfits⟩ := hsound
  have hslot := hfits.slot
  rw [hcurrent] at hslot
  obtain ⟨i, hi⟩ := hslot
  exact h _ (List.mem_of_getElem? hi) _ rfl

theorem load (h : loader.Reports version) : loader.load.1.Reports version := by
  cases hcurrent : loader.current with
  | absent =>
    rw [Loader.load_of_absent hcurrent]
    intro acquisition hmem handle hsent
    rcases List.mem_append.mp hmem with hold | hnew
    · exact h acquisition hold handle hsent
    · rw [List.mem_singleton.mp hnew] at hsent
      cases hsent
  | loading i =>
    rw [Loader.load_of_loading hcurrent]
    exact h
  | settled outcome =>
    rw [Loader.load_of_settled hcurrent]
    exact h

theorem finish (h : loader.Reports version) (i : Nat) {ending : Ending}
    (hending : ∀ engine, ending = .acquired engine → engine.version = version) :
    (loader.finish i ending).Reports version := by
  rcases loader.finish_cases i ending with hsame | ⟨epoch, hrun⟩
  · rw [hsame]
    exact h
  · intro acquisition hmem handle hsent
    obtain ⟨j, hj⟩ := List.mem_iff_getElem?.mp hmem
    rw [Loader.started_finish_of_running hrun] at hj
    split at hj
    · cases hj
      cases ending with
      | acquired engine =>
        cases hsent
        exact hending engine rfl
      | failed cause => cases hsent
      | abandoned => cases hsent
    · exact h acquisition (List.mem_of_getElem? hj) handle hsent

end Loader.Reports

namespace World

variable {w : World} {adapter : Adapter} {release : Release} {s : Session} {k : Nat}
  {event : Event}

/-- Asking a side channel. -/
theorem suits_metadata {source : Metadata}
    (hservice : ∀ service, source = .remote service →
      adapter.versionSource.service? = some service)
    (hown : w.own? adapter release =
      ((w.metadata? adapter.package source).map Text.trim).map (versionText adapter.package)) :
    (source.verdict adapter.package).phase.Suits w adapter release := by
  cases source with
  | remote service => exact ⟨service, hservice service rfl, hown⟩
  | manifest contents =>
    simp only [Metadata.verdict]
    cases hread : Metadata.readManifest adapter.package contents with
    | error cause => trivial
    | ok version =>
      rw [metadata?, hread] at hown
      exact hown

/-- A version without an engine. -/
theorem suits_aside {verdict : Verdict} (h : adapter.sideVerdict? release = some verdict) :
    verdict.phase.Suits w adapter release := by
  unfold Adapter.sideVerdict? at h
  split at h
  · rename_i source version hsource
    cases h
    simp only [Verdict.phase, Phase.Suits, own?, hsource]
    rfl
  · rename_i source hsource
    cases h
    refine suits_metadata ?_ ?_
    · rintro service rfl
      rw [hsource]
      rfl
    · simp only [own?, hsource]
      rfl
  · cases h

/-- A version by the engine. -/
theorem suits_engine {engine : Engine} (hengine : engine.version = w.reports release)
    (hside : adapter.sideVerdict? release = none) :
    (adapter.verdict release engine).phase.Suits w adapter release := by
  have hreported : Adapter.reported engine release = (w.reports release <|> release) := by
    rw [Adapter.reported, hengine]
  cases hsource : adapter.versionSource with
  | metadata source =>
    simp only [Adapter.sideVerdict?, hsource] at hside
    cases release <;> cases hside
  | engine =>
    simp only [Adapter.verdict, hsource, Verdict.phase, Phase.Suits, own?, hreported]
    cases (w.reports release <|> release) <;> rfl
  | engineOrMetadata source =>
    cases hversion : (w.reports release <|> release) with
    | some version =>
      simp only [Adapter.verdict, hsource, Verdict.phase, Phase.Suits, own?, hreported, hversion]
      rfl
    | none =>
      simp only [Adapter.verdict, hsource, hreported, hversion]
      refine suits_metadata ?_ ?_
      · rintro service rfl
        rw [hsource]
        rfl
      · simp only [own?, hsource, hversion]
        rfl

/-- A version that waits for the engine. -/
theorem suits_wait {loader : Loader} (hreports : loader.Reports (w.reports release))
    (hside : adapter.sideVerdict? release = none) (i : Nat) :
    ((Request.version adapter release).afterWait loader i).phase.Suits w adapter release := by
  unfold Request.afterWait
  split
  · rename_i result hreceived
    cases result with
    | ok handle => exact suits_engine (hreports.received hreceived) hside
    | error e => trivial
  · exact hside

theorem suits_load {loader : Loader} (hsound : loader.Sound)
    (hreports : loader.Reports (w.reports release))
    (hside : adapter.sideVerdict? release = none) :
    ((Request.version adapter release).afterLoad loader).phase.Suits w adapter release := by
  unfold Request.afterLoad
  cases hcurrent : loader.current with
  | absent =>
    have hspawned := hreports.load
    rw [Loader.load_of_absent hcurrent] at hspawned ⊢
    exact suits_wait hspawned hside _
  | loading i =>
    rw [Loader.load_of_loading hcurrent]
    exact suits_wait hreports hside i
  | settled outcome =>
    rw [Loader.load_of_settled hcurrent]
    cases outcome with
    | ok handle => exact suits_engine (hreports.settled hsound hcurrent) hside
    | error cause => trivial

/-- **A session whose open calls come to the versions of their adapters**, if to any. -/
structure Holds (w : World) (s : Session) : Prop where
  reports : ∀ release, (s.engines.loader release).Reports (w.reports release)
  suits : ∀ (k : Nat) adapter release phase, s.calls[k]? = some ⟨.version adapter release, phase⟩ →
    phase.isOpen = true → phase.Suits w adapter release

/-- What a call comes to by itself. -/
theorem suits_of_comes (hholds : w.Holds s) (hsound : (s.engines.loader release).Sound)
    (hallows : w.Allows s.requests event) {phase : Phase}
    (h : s.Comes k adapter release event phase)
    (hnew : ∀ text, phase = .finished (.version text) → (s.versions.get release).value = none ∧
      s.calls[k]? ≠ some ⟨.version adapter release, phase⟩) :
    phase.Suits w adapter release := by
  cases h with
  | stays hk =>
    cases hopen : phase.isOpen with
    | true => exact hholds.suits k adapter release phase hk hopen
    | false =>
      cases phase with
      | finished reply =>
        cases reply with
        | version text => exact absurd hk (hnew text rfl).2
        | _ => trivial
      | cancelled => trivial
      | _ => cases hopen
  | refused => trivial
  | gone => trivial
  | waits => trivial
  | takes hvalue =>
    rw [(hnew _ rfl).1] at hvalue
    cases hvalue
  | aside hside => exact suits_aside hside
  | loads hside => exact suits_load hsound (hholds.reports release) hside
  | awaits hk =>
    -- A call that waits for an engine is not one that a side channel alone would answer.
    exact suits_wait (hholds.reports release) (hholds.suits k adapter release _ hk rfl) _
  | fetched hk =>
    rename_i answer
    obtain ⟨service, hservice, hown⟩ := hholds.suits k adapter release _ hk rfl
    cases answer with
    | error cause => trivial
    | ok version =>
      rw [← hallows adapter release service (Session.getElem?_requests hk) hservice] at hown
      exact hown

theorem Holds.step (h : w.Holds s) (hsound : ∀ release, (s.engines.loader release).Sound)
    (hallows : w.Allows s.requests event) : w.Holds (s.step event) where
  reports := by
    intro release
    have hstep := s.loader_step event release
    have hreports := h.reports release
    generalize s.engines.loader release = loader at hstep hreports
    generalize (s.step event).engines.loader release = next at hstep ⊢
    cases hstep with
    | same => exact hreports
    | load => exact hreports.load
    | invalidate => exact hreports
    | finish i ending =>
      refine hreports.finish i fun engine heq => ?_
      subst heq
      exact hallows
  suits := by
    intro k adapter release phase hk hopen
    refine suits_of_comes h (hsound release) hallows (Session.comes_step hk) fun text heq => ?_
    rw [heq] at hopen
    cases hopen

theorem holds_new (w : World) (package : String) : w.Holds (Session.new package) where
  reports := by
    intro release acquisition hmem
    rw [Session.loader_new] at hmem
    exact absurd hmem List.not_mem_nil
  suits := fun k adapter release phase hk => by cases hk

/-- What is allowed depends on the calls made so far only. -/
theorem Allows.mono {requests more : List Request} (h : w.Allows (requests ++ more) event) :
    w.Allows requests event := by
  cases event with
  | acquired release i ending => cases ending <;> exact h
  | fetched k answer =>
    cases answer with
    | error cause => trivial
    | ok version =>
      intro adapter release service hk
      refine h adapter release service ?_
      rw [List.getElem?_append_left (List.getElem?_eq_some_iff.mp hk).1, hk]
  | _ => trivial

theorem Faithful.of_concat {events : List Event} (h : w.Faithful (events ++ [event])) :
    w.Faithful events ∧ w.Allows (events.filterMap Event.asked?) event := by
  have hallows : ∀ e ∈ events ++ [event], w.Allows (events.filterMap Event.asked?) e := by
    intro e he
    have hall := h e he
    rw [List.filterMap_append] at hall
    exact hall.mono
  exact ⟨fun e he => hallows e (List.mem_append_left _ he),
    hallows event (List.mem_append_right _ List.mem_cons_self)⟩

/-- **Whatever is under way in a run comes to the version of the adapter asked**, if to any. -/
theorem holds_run (package : String) {events : List Event} (h : w.Faithful events) :
    w.Holds ((Session.new package).run events) := by
  induction events using List.reverseRecOn with
  | nil => exact w.holds_new package
  | append_singleton events event ih =>
    obtain ⟨hbefore, hallows⟩ := h.of_concat
    rw [Session.run_concat]
    refine (ih hbefore).step (fun release => (Session.provides_run package events release).sound) ?_
    rw [Session.requests_run]
    exact hallows

/-- What becomes known is the version of the adapter whose call has found it. -/
theorem own_of_found (hholds : w.Holds s) (hsound : (s.engines.loader release).Sound)
    (horderly : s.Orderly) (hallows : w.Allows s.requests event) {text : String}
    (hnone : (s.versions.get release).value = none)
    (hfound : ((s.step event).versions.get release).value = some text) :
    ∃ (k : Nat) (adapter : Adapter),
      (s.step event).calls[k]? = some ⟨.version adapter release, .finished (.version text)⟩ ∧
      w.own? adapter release = some text := by
  obtain ⟨k, adapter, hk⟩ := (horderly.step event).found release text hnone hfound
  refine ⟨k, adapter, hk, suits_of_comes hholds hsound hallows (Session.comes_step hk)
    fun _ _ => ?_⟩
  -- Had the call succeeded before, the text would have been known.
  refine ⟨hnone, fun hold => ?_⟩
  rw [(horderly release).kept k text ⟨adapter, hold⟩] at hnone
  cases hnone

/-- The first success at a release. -/
theorem first_success (package : String) {events : List Event} (h : w.Faithful events)
    {text : String}
    (hvalue : (((Session.new package).run events).versions.get release).value = some text) :
    ∃ before event, before ++ [event] <+: events ∧
      (∀ other, ¬ Session.Succeeded package before release other) ∧
      ∃ (j : Nat) (adapter : Adapter),
        ((Session.new package).run (before ++ [event])).calls[j]? =
          some ⟨.version adapter release, .finished (.version text)⟩ ∧
        w.own? adapter release = some text := by
  induction events using List.reverseRecOn with
  | nil => cases hvalue
  | append_singleton events event ih =>
    obtain ⟨hbefore, hallows⟩ := h.of_concat
    cases hknown : (((Session.new package).run events).versions.get release).value with
    | some old =>
      have hkept := ((Session.orderly_run package events).step event).kept release old hknown
      rw [Session.run_concat, hkept] at hvalue
      cases hvalue
      obtain ⟨before, first, hfront, hrest⟩ := ih hbefore hknown
      exact ⟨before, first, hfront.trans (List.prefix_append _ _), hrest⟩
    | none =>
      refine ⟨events, event, List.prefix_rfl, ?_, ?_⟩
      · intro other hother
        rw [(Session.value_run package events release other).mpr hother] at hknown
        cases hknown
      · rw [Session.run_concat] at hvalue ⊢
        refine own_of_found (holds_run package hbefore)
          (Session.provides_run package events release).sound (Session.orderly_run package events)
          ?_ hknown hvalue
        rw [Session.requests_run]
        exact hallows

end World

namespace Session

theorem call_mem_of_run {package : String} {events : List Event} {k : Nat} {request : Request}
    (h : ((new package).run events).requests[k]? = some request) : .call request ∈ events := by
  rw [requests_run] at h
  obtain ⟨event, hevent, hasked⟩ := List.mem_filterMap.mp (List.mem_of_getElem? h)
  cases event with
  | call asked =>
    cases hasked
    exact hevent
  | _ => cases hasked

/-- **A call gets the version of the first adapter that was answered.** In every run of a world with
one answer for each engine and each service, a call that succeeds at a release gets

* the own version of the adapter whose call was the first to succeed there, and so
* the own version of its own adapter if all adapters asked for the release have the same one, as
  those derived without a change of the source have. -/
theorem version_of_first_answered (w : World) (package : String) (events : List Event)
    (hfaithful : w.Faithful events) :
    ∀ (k : Nat) adapter release text,
      ((new package).run events).calls[k]? =
        some ⟨.version adapter release, .finished (.version text)⟩ →
      (∃ before event, before ++ [event] <+: events ∧
        (∀ other, ¬ Succeeded package before release other) ∧
        ∃ (j : Nat) (first : Adapter),
          ((new package).run (before ++ [event])).calls[j]? =
            some ⟨.version first release, .finished (.version text)⟩ ∧
          w.own? first release = some text) ∧
      ((∀ other, .call (.version other release) ∈ events →
          w.own? other release = w.own? adapter release) →
        w.own? adapter release = some text) := by
  intro k adapter release text hk
  have hvalue := (orderly_run package events release).kept k text ⟨adapter, hk⟩
  obtain ⟨before, event, hfront, hnone, j, first, hj, hown⟩ :=
    w.first_success package hfaithful hvalue
  refine ⟨⟨before, event, hfront, hnone, j, first, hj, hown⟩, fun hsame => ?_⟩
  rw [← hsame first (hfront.subset (call_mem_of_run (getElem?_requests hj)))]
  exact hown

/-- An adapter derived under another name only: it is told its own version, that of both. -/
theorem version_of_first_answered_derived :
    let base : Adapter :=
      { id := "base", label := "Base", editorLanguage := "stub", package := "stub" }
    let w : World := ⟨fun _ => some "1", fun _ _ => "7"⟩
    let events : List Event := [.call (.version base none),
      .acquired none 0 (.acquired (.ofParse "stub" (some "1") fun _ _ => .ok .null)), .resume 0,
      .call (.version (base.derive "derived" "Derived") none)]
    w.Faithful events ∧
    ((new "stub").run events).calls[1]? =
      some ⟨.version (base.derive "derived" "Derived") none, .finished (.version "stub@1")⟩ ∧
    w.own? (base.derive "derived" "Derived") none = some "stub@1" := by
  intro base w events
  have hfaithful : w.Faithful events := by
    intro event hevent
    simp only [events, List.mem_cons, List.not_mem_nil, or_false] at hevent
    rcases hevent with rfl | rfl | rfl | rfl
    · trivial
    · rfl
    · trivial
    · trivial
  have hk : ((new "stub").run events).calls[1]? =
      some ⟨.version (base.derive "derived" "Derived") none, .finished (.version "stub@1")⟩ := rfl
  refine ⟨hfaithful, hk, (version_of_first_answered w "stub" events hfaithful 1 _ none _ hk).2 ?_⟩
  intro other hother
  simp only [events, List.mem_cons, List.not_mem_nil, or_false, reduceCtorEq, Event.call.injEq,
    Request.version.injEq, and_true, false_or] at hother
  rcases hother with rfl | rfl
  · rfl
  · rfl

/-- **An adapter with a source of its own is told the version of the one it was derived from.**
Asked alone, it gives what its service says; asked after the other, what the other's engine
reports. -/
theorem derived_version_of_base :
    let base : Adapter :=
      { id := "base", label := "Base", editorLanguage := "stub", package := "stub" }
    let derived : Adapter :=
      { base.derive "derived" "Derived" with versionSource := .metadata (.remote "registry") }
    let w : World := ⟨fun _ => some "1", fun _ _ => "7"⟩
    let alone : List Event := [.call (.version derived none), .fetched 0 (.ok "7")]
    let after : List Event := [.call (.version base none),
      .acquired none 0 (.acquired (.ofParse "stub" (some "1") fun _ _ => .ok .null)), .resume 0,
      .call (.version derived none)]
    w.Faithful alone ∧ w.Faithful after ∧ w.own? derived none = some "stub@7" ∧
    ((new "stub").run alone).calls[0]? =
      some ⟨.version derived none, .finished (.version "stub@7")⟩ ∧
    ((new "stub").run after).calls[1]? =
      some ⟨.version derived none, .finished (.version "stub@1")⟩ := by
  intro base derived w alone after
  have hanswer : versionText "stub" (Text.trim "7") = "stub@7" := by decide
  refine ⟨?_, ?_, by decide, by rw [← hanswer]; rfl, rfl⟩
  · intro event hevent
    simp only [alone, List.mem_cons, List.not_mem_nil, or_false] at hevent
    rcases hevent with rfl | rfl
    · trivial
    · intro adapter release service hasked hservice
      rfl
  · intro event hevent
    simp only [after, List.mem_cons, List.not_mem_nil, or_false] at hevent
    rcases hevent with rfl | rfl | rfl | rfl
    · trivial
    · rfl
    · trivial
    · trivial

end Session

end Arboretum
