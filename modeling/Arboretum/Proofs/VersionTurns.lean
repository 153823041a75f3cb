import Arboretum.Proofs.Endings
import Arboretum.Proofs.VersionQueue

/-!
# Turns at a version

While a version is not known, the oldest open call for it has the turn. What that call does is said
here for every source of versions and for every state of the loader, and when the turn passes on.

* `Session.TakesTurn`: the events by which a call has its turn. `Session.step_of_turn`: it resolves
  the version. `Session.resume_of_older`, `Session.start_of_open`: the others wait.
* `Session.Resolves`: what resolving comes to, by the source and by the acquisition of the epoch;
  `Metadata.Asked` and `Adapter.Answers` are its parts. `Session.resolves_of_turn`: who has the turn
  comes to that, and no loader changes but one for which an acquisition is started.
* `Session.answers_of_ended`, `Session.fetched_of_fetching`: how a resolution goes on that waits for
  an engine or for metadata.
* `Session.IsNext`: who is next when a call goes. `Session.turn_passes`: a call that fails or is
  given up leaves the version unknown and the turn to the next one.
-/

namespace Arboretum

/-- A call that came to nothing: it was given up or has failed. -/
def Phase.isLost : Phase → Bool
  | .cancelled | .finished (.failure _) => true
  | _ => false

/-! ## What sources come to -/

/-- What a call comes to that asks a side channel: a manifest answers at once, a service later. -/
inductive Metadata.Asked (package : String) (k : Nat) : Metadata → Phase → List Job → Prop
  | found {contents : Option String} {version : String}
      (read : readManifest package contents = .ok version) :
    Asked package k (.manifest contents)
      (.finished (.version (versionText package (Text.trim version)))) []
  | failed {contents : Option String} {cause : MetadataCause}
      (read : readManifest package contents = .error cause) :
    Asked package k (.manifest contents) (.finished (.failure (.metadata package cause))) []
  | remote (service : String) : Asked package k (.remote service) .fetching [.fetch service k]

theorem Metadata.asked (package : String) (k : Nat) (source : Metadata) :
    Asked package k source (source.verdict package).phase ((source.verdict package).jobs k) := by
  cases source with
  | remote service => exact .remote service
  | manifest contents =>
    simp only [verdict]
    cases hread : readManifest package contents with
    | ok version => exact .found hread
    | error cause => exact .failed hread

/-- What a call for a version comes to by what its load returns. -/
inductive Adapter.Answers (adapter : Adapter) (release : Release) (k : Nat) :
    Except Error Handle → Phase → List Job → Prop
  | raised (e : Error) : Answers adapter release k (.error e) (.finished (.failure e)) []
  | reported {handle : Handle} {version : String}
      (known : Adapter.reported handle.engine release = some version) :
    Answers adapter release k (.ok handle)
      (.finished (.version (versionText adapter.package version))) []
  | unknown {handle : Handle} (silent : Adapter.reported handle.engine release = none)
      (alone : ∀ source, adapter.versionSource ≠ .engineOrMetadata source) :
    Answers adapter release k (.ok handle)
      (.finished (.version (versionText adapter.package "unknown"))) []
  | asks {handle : Handle} {source : Metadata} {phase : Phase} {jobs : List Job}
      (silent : Adapter.reported handle.engine release = none)
      (fallback : adapter.versionSource = .engineOrMetadata source)
      (asked : Metadata.Asked adapter.package k source phase jobs) :
    Answers adapter release k (.ok handle) phase jobs

theorem Adapter.answers (adapter : Adapter) (release : Release) (k : Nat)
    (result : Except Error Handle) :
    let verdict := (Request.version adapter release).verdict result
    adapter.Answers release k result verdict.phase (verdict.jobs k) := by
  cases result with
  | error e => exact .raised e
  | ok handle =>
    simp only [Request.verdict, Adapter.verdict]
    cases hreported : Adapter.reported handle.engine release with
    | some version =>
      cases adapter.versionSource <;> exact .reported hreported
    | none =>
      cases hsource : adapter.versionSource with
      | engineOrMetadata source => exact .asks hreported hsource (source.asked adapter.package k)
      | engine => exact .unknown hreported (by simp [hsource])
      | metadata source => exact .unknown hreported (by simp [hsource])

/-- A verdict starts no acquisition. -/
theorem Verdict.acquisition_not_mem_jobs (verdict : Verdict) (k : Nat) (release : Release)
    (i : Nat) : .acquisition release i ∉ verdict.jobs k := by
  cases verdict <;> simp [jobs]

namespace Session

variable {s : Session} {release : Release} {k : Nat} {adapter : Adapter} {package : String}
  {events : List Event} {event : Event}

/-! ## Who has the turn -/

/-- By this event a call for the version of a release has its turn: it goes on, being the oldest one
that is open, or it comes where none is open. -/
inductive TakesTurn (s : Session) (release : Release) : Event → Nat → Adapter → Prop
  | resume {k : Nat} {adapter : Adapter}
      (call : s.calls[k]? = some ⟨.version adapter release, .queued⟩)
      (oldest : ∀ j phase, s.At release j phase → phase.isOpen = true → k ≤ j) :
      TakesTurn s release (.resume k) k adapter
  | call {adapter : Adapter} (allowed : adapter.checkOverride release = .ok ())
      (alone : ∀ j phase, s.At release j phase → phase.isOpen = false) :
      TakesTurn s release (.call (.version adapter release)) s.calls.length adapter

theorem refusal?_version (h : adapter.checkOverride release = .ok ()) :
    (Request.version adapter release).refusal? = none := by
  simp only [Request.refusal?, h]

/-- **Who has the turn at an unknown version resolves it.** -/
theorem step_of_turn (horderly : s.Orderly) (hvalue : (s.versions.get release).value = none)
    (hturn : s.TakesTurn release event k adapter) :
    ∃ u : Session, u.engines = s.engines ∧ u.started = s.started ∧
      u.calls[k]? = some ⟨.version adapter release, .queued⟩ ∧
      s.step event = u.resolveVersion k adapter release := by
  cases hturn with
  | resume hcall oldest =>
    refine ⟨s, rfl, rfl, hcall, ?_⟩
    have hhead := (horderly release).head_of_oldest hvalue ⟨adapter, hcall⟩ rfl oldest
    simp only [step, Session.resume, hcall]
    rw [versionTurn_of_unknown hvalue, if_pos hhead]
  | call hallowed alone =>
    have hqueue := (horderly release).queue_eq_nil alone
    have henlisted : ((s.enlist (.version adapter release)).versions.get release).value = none :=
      hvalue
    have hjoined := joinQueue_of_unknown henlisted s.calls.length
    refine ⟨(s.enlist (.version adapter release)).joinQueue s.calls.length release, ?_, ?_, ?_, ?_⟩
    · rw [hjoined]
      rfl
    · rw [hjoined]
      rfl
    · rw [calls_joinQueue, getElem?_enlist, if_pos rfl]
    · rw [step, start_version (refusal?_version hallowed), versionTurn_of_unknown, if_pos]
      · rw [hjoined, VersionCache.get_put_self]
        simp only [enlist, hqueue]
        rfl
      · rw [hjoined, VersionCache.get_put_self]

/-- While an older call is open, a call that goes on goes on waiting. -/
theorem resume_of_older (horderly : s.Orderly) (hvalue : (s.versions.get release).value = none)
    {j : Nat} {phase : Phase} (hj : s.At release j phase) (hopen : phase.isOpen = true)
    (hk : s.calls[k]? = some ⟨.version adapter release, .queued⟩) (hlt : j < k) :
    s.step (.resume k) = s := by
  have hhead : (s.versions.get release).queue.head? ≠ some k := fun hfirst =>
    Nat.not_lt.mpr ((horderly release).oldest_of_head hvalue hfirst hj hopen) hlt
  simp only [step, resume, hk]
  rw [versionTurn_of_unknown hvalue, if_neg hhead]
  exact setPhase_eq_self hk

/-- While a call is open, one that comes joins the queue and waits. -/
theorem start_of_open (horderly : s.Orderly) (hvalue : (s.versions.get release).value = none)
    {j : Nat} {phase : Phase} (hj : s.At release j phase) (hopen : phase.isOpen = true)
    (hallowed : adapter.checkOverride release = .ok ()) :
    let t := s.step (.call (.version adapter release))
    t.At release s.calls.length .queued ∧ t.started = s.started ∧ t.engines = s.engines := by
  intro t
  have henlisted : ((s.enlist (.version adapter release)).versions.get release).value = none :=
    hvalue
  have hjoined := joinQueue_of_unknown henlisted s.calls.length
  -- The queue has an older call in front, so the new one does not begin it.
  have hmem := (horderly release).queued j phase hj hopen hvalue
  have hhead : ((s.versions.get release).queue ++ [s.calls.length]).head? ≠
      some s.calls.length := by
    intro hfirst
    obtain ⟨first, hfront⟩ : ∃ first, (s.versions.get release).queue.head? = some first :=
      Option.isSome_iff_exists.mp (List.isSome_head?.mpr (List.ne_nil_of_mem hmem))
    rw [List.head?_append, hfront] at hfirst
    cases hfirst
    obtain ⟨p, hp, -⟩ := (horderly release).waiting _ (List.mem_of_mem_head? hfront)
    exact Nat.lt_irrefl _ hp.lt
  have hnew : ((s.enlist (.version adapter release)).joinQueue s.calls.length
      release).calls[s.calls.length]? = some ⟨.version adapter release, .queued⟩ := by
    rw [calls_joinQueue, getElem?_enlist, if_pos rfl]
  have ht : t = (s.enlist (.version adapter release)).joinQueue s.calls.length release := by
    simp only [t, step]
    rw [start_version (refusal?_version hallowed), versionTurn_of_unknown, if_neg]
    · exact setPhase_eq_self hnew
    · rw [hjoined, VersionCache.get_put_self]
      exact hhead
    · rw [hjoined, VersionCache.get_put_self]
  rw [ht]
  refine ⟨⟨adapter, hnew⟩, ?_, ?_⟩
  · rw [hjoined]
    rfl
  · rw [hjoined]
    rfl

/-! ## What the turn comes to -/

/-- **What a call comes to that resolves a version after a run**, and the work it starts. A side
channel describes the default release only. Where the engine is needed, an acquisition is started if
the epoch has none, one that runs is joined, and one that has ended answers. -/
inductive Resolves (package : String) (events : List Event) (loader : Loader) (adapter : Adapter)
    (release : Release) (k : Nat) : Phase → List Job → Prop
  | requested {source : Metadata} {version : String}
      (side : adapter.versionSource = .metadata source) (asked : release = some version) :
    Resolves package events loader adapter release k
      (.finished (.version (versionText adapter.package version))) []
  | aside {source : Metadata} {phase : Phase} {jobs : List Job}
      (side : adapter.versionSource = .metadata source) (default : release = none)
      (asked : Metadata.Asked adapter.package k source phase jobs) :
    Resolves package events loader adapter release k phase jobs
  | starts (engine : ∀ source, adapter.versionSource ≠ .metadata source)
      (fresh : ∀ acquisition ∈ loader.started, acquisition.epoch ≠ loader.epoch) :
    Resolves package events loader adapter release k (.loading loader.started.length)
      [.acquisition release loader.started.length]
  | joins {i : Nat} (engine : ∀ source, adapter.versionSource ≠ .metadata source)
      (runs : ((new package).run events).Runs release i loader.epoch) :
    Resolves package events loader adapter release k (.loading i) []
  | ended {i : Nat} {ending : Ending} {phase : Phase} {jobs : List Job}
      (engine : ∀ source, adapter.versionSource ≠ .metadata source)
      (ended : Ended package events release i loader.epoch ending)
      (answers : adapter.Answers release k (ending.reply package release loader.epoch) phase jobs) :
    Resolves package events loader adapter release k phase jobs

/-- A version without the engine. -/
theorem resolves_aside {verdict : Verdict} (h : adapter.sideVerdict? release = some verdict)
    (package : String) (events : List Event) (loader : Loader) (k : Nat) :
    Resolves package events loader adapter release k verdict.phase (verdict.jobs k) := by
  unfold Adapter.sideVerdict? at h
  split at h
  · rename_i hsource
    cases h
    exact .requested hsource rfl
  · rename_i source hsource
    cases h
    exact .aside hsource rfl (source.asked adapter.package k)
  · cases h

/-- A version by the engine: what the call comes to, the work that is started, and the loader. -/
theorem resolves_by_engine (hengine : ∀ source, adapter.versionSource ≠ .metadata source)
    {loader : Loader} (hloader : ((new package).run events).engines.loader release = loader)
    (k : Nat) :
    let verdict := (Request.version adapter release).afterLoad loader
    ∃ jobs, Resolves package events loader adapter release k verdict.phase jobs ∧
      (loader.starts?.map (Job.acquisition release)).toList ++ verdict.jobs k = jobs ∧
      loader.load.1 =
        if .acquisition release loader.started.length ∈ jobs then loader.spawn else loader := by
  intro verdict
  have hcases := acquisition_cases package events release
  simp only [hloader] at hcases
  rcases hcases with ⟨hcurrent, hfresh⟩ | ⟨i, hruns⟩ | ⟨i, ending, hended⟩
  · have hspawned : loader.spawn.started[loader.started.length]? =
        some ⟨loader.epoch, .silent⟩ := by
      rw [Loader.spawn, List.getElem?_concat_length]
    have hverdict : verdict = .waits loader.started.length := by
      simp only [verdict, Request.afterLoad, Loader.load_of_absent hcurrent]
      exact Request.afterWait_of_silent hspawned
    refine ⟨[.acquisition release loader.started.length], ?_, ?_, ?_⟩
    · rw [hverdict]
      exact .starts hengine hfresh
    · rw [hverdict, Loader.starts?, hcurrent]
      rfl
    · rw [Loader.load_of_absent hcurrent, if_pos List.mem_cons_self]
  · obtain ⟨endings, busy, hfits⟩ := (provides_run package events release).sound
    have hsilent := hruns
    rw [Runs, hloader] at hsilent
    rw [hloader] at hfits
    have hcurrent := hfits.current_of_running hsilent
    have hverdict : verdict = .waits i := by
      simp only [verdict, Request.afterLoad, Loader.load_of_loading hcurrent]
      exact Request.afterWait_of_silent hsilent
    refine ⟨[], ?_, ?_, ?_⟩
    · rw [hverdict]
      exact .joins hengine hruns
    · rw [hverdict, Loader.starts?, hcurrent]
      rfl
    · rw [Loader.load_of_loading hcurrent, if_neg List.not_mem_nil]
  · have hverdict : verdict = (Request.version adapter release).verdict
        (ending.reply package release loader.epoch) := hended.afterLoad hloader _
    refine ⟨verdict.jobs k, ?_, ?_, ?_⟩
    · rw [hverdict]
      exact .ended hengine hended (adapter.answers release k _)
    · rw [hended.starts? hloader]
      rfl
    · rw [hended.load hloader, if_neg (verdict.acquisition_not_mem_jobs k release _)]

/-- **What a call comes to whose turn it is**, whatever the source of its version and the state of
the loader. A loader changes only where an acquisition is started for it. -/
theorem resolves_of_turn (hvalue : (((new package).run events).versions.get release).value = none)
    (hturn : ((new package).run events).TakesTurn release event k adapter) :
    let s := (new package).run events
    let t := s.step event
    ∃ phase jobs,
      Resolves package events (s.engines.loader release) adapter release k phase jobs ∧
      t.At release k phase ∧ t.started = s.started ++ jobs ∧
      ∀ other, let loader := s.engines.loader other
        t.engines.loader other =
          if .acquisition other loader.started.length ∈ jobs then loader.spawn else loader := by
  intro s t
  have horderly : s.Orderly := (orderly_new package).run events
  obtain ⟨u, hengines, hstarted, hk, hstep⟩ := step_of_turn horderly hvalue hturn
  have ht : t = u.resolveVersion k adapter release := hstep
  rw [ht, resolveVersion_eq]
  cases hside : adapter.sideVerdict? release with
  | some verdict =>
    refine ⟨verdict.phase, verdict.jobs k, resolves_aside hside _ _ _ k,
      ⟨adapter, getElem?_conclude hk _ verdict⟩, ?_, ?_⟩
    · rw [← hstarted]
      rfl
    · intro other loader
      rw [if_neg (verdict.acquisition_not_mem_jobs k other _)]
      exact congrArg (EngineSet.loader · other) hengines
  | none =>
    have hengine := Adapter.sideVerdict?_eq_none_iff.mp hside
    obtain ⟨jobs, hresolves, hjobs, hload⟩ :=
      resolves_by_engine hengine (rfl : s.engines.loader release = _) k
    refine ⟨_, jobs, hresolves, ⟨adapter, ?_⟩, ?_, ?_⟩
    · rw [← hengines]
      exact getElem?_conclude (s := u.enter release) hk _ _
    · rw [← hjobs, ← List.append_assoc, ← hengines, ← hstarted]
      rfl
    · intro other loader
      have hloader : (u.enter release).engines.loader other =
          if release = other then (s.engines.loader release).load.1
          else s.engines.loader other := by
        rw [loader_enter, hengines]
      refine hloader.trans ?_
      split
      · rename_i heq
        subst heq
        exact hload
      · rename_i hne
        rw [if_neg]
        intro hmem
        -- Only acquisitions of the release itself are started.
        rw [← hjobs] at hmem
        rcases List.mem_append.mp hmem with hmem | hmem
        · obtain ⟨i, -, heq⟩ := Option.map_eq_some_iff.mp (Option.mem_toList.mp hmem)
          cases heq
          exact hne rfl
        · exact Verdict.acquisition_not_mem_jobs _ k other _ hmem

/-! ## How a resolution goes on -/

/-- A resolution goes on waiting for an engine while its acquisition runs. -/
theorem resume_of_runs {i epoch : Nat}
    (hk : s.calls[k]? = some ⟨.version adapter release, .loading i⟩)
    (hruns : s.Runs release i epoch) : s.step (.resume k) = s := by
  have hnothing : (s.engines.loader release).received? i = none := by
    rw [Runs] at hruns
    simp only [Loader.received?, hruns]
  simp only [step, resume, hk, awaitEngine, Request.release, hnothing]
  exact setPhase_eq_self hk

/-- **A resolution that waits for an engine answers by how its acquisition has ended.** -/
theorem answers_of_ended {i epoch : Nat} {ending : Ending}
    (hk : ((new package).run events).calls[k]? = some ⟨.version adapter release, .loading i⟩)
    (hended : Ended package events release i epoch ending) :
    let s := (new package).run events
    let t := s.step (.resume k)
    ∃ phase jobs, adapter.Answers release k (ending.reply package release epoch) phase jobs ∧
      t.At release k phase ∧ t.started = s.started ++ jobs ∧ t.engines = s.engines := by
  intro s t
  have ht : t = s.conclude k (.version adapter release)
      ((Request.version adapter release).verdict (ending.reply package release epoch)) := by
    have hawaits : t = s.awaitEngine k (.version adapter release) i := by
      simp only [t, step, resume, s, hk]
    rw [hawaits, awaitEngine_eq]
    exact congrArg _ (hended.afterWait _)
  rw [ht]
  exact ⟨_, _, adapter.answers release k _, ⟨adapter, getElem?_conclude hk _ _⟩, rfl, rfl⟩

/-- A resolution that waits for metadata ends with the answer. -/
theorem fetched_of_fetching (hk : s.calls[k]? = some ⟨.version adapter release, .fetching⟩)
    (answer : Except MetadataCause String) :
    let t := s.step (.fetched k answer)
    t.At release k (.finished (.ofVersion (Metadata.result adapter.package answer))) ∧
      t.started = s.started ∧ t.engines = s.engines := by
  intro t
  have ht : t = s.conclude k (.version adapter release)
      (.ends (.ofVersion (Metadata.result adapter.package answer))) := by
    simp only [t, step, fetched, hk, finishVersion_eq s k adapter release]
  rw [ht]
  exact ⟨⟨adapter, getElem?_conclude hk _ _⟩, List.append_nil _, rfl⟩

/-- A call for a version that is given up starts nothing and leaves every acquisition alone. -/
theorem cancelled_of_at {phase : Phase} (hk : s.At release k phase) :
    let t := s.step (.cancel k)
    t.At release k .cancelled ∧ t.started = s.started ∧ t.engines = s.engines := by
  intro t
  obtain ⟨asked, hk⟩ := hk
  have hset : (s.setPhase k .cancelled).At release k .cancelled :=
    (at_setPhase hk _ k _).mpr (by rw [if_pos rfl])
  simp only [t, step, cancel, hk]
  cases phase <;> exact ⟨hset, rfl, rfl⟩

/-! ## How the turn passes on -/

/-- With a call gone, this is the event by which the next one has its turn: the oldest of the others
that are open goes on, or one comes where no other is open. -/
inductive IsNext (s : Session) (release : Release) (gone : Nat) : Event → Nat → Adapter → Prop
  | resume {k : Nat} {adapter : Adapter} (other : k ≠ gone)
      (call : s.calls[k]? = some ⟨.version adapter release, .queued⟩)
      (oldest : ∀ j phase, s.At release j phase → phase.isOpen = true → j ≠ gone → k ≤ j) :
      IsNext s release gone (.resume k) k adapter
  | call {adapter : Adapter} (allowed : adapter.checkOverride release = .ok ())
      (alone : ∀ j phase, s.At release j phase → j ≠ gone → phase.isOpen = false) :
      IsNext s release gone (.call (.version adapter release)) s.calls.length adapter

/-- An event about a call that is there adds none. -/
theorem length_step_of_ticket {gone : Nat} (habout : event.ticket? = some gone) :
    (s.step event).calls.length = s.calls.length := by
  have hasked : event.asked? = none := by
    cases event <;> first | rfl | cases habout
  have hlength := congrArg List.length (s.requests_step event)
  simpa [requests, hasked] using hlength

/-- An event about a call leaves all others where they stand. -/
theorem getElem?_step_of_ticket {gone : Nat} (habout : event.ticket? = some gone) {j : Nat}
    (hj : j ≠ gone) : (s.step event).calls[j]? = s.calls[j]? := by
  by_cases hlt : j < s.calls.length
  · refine getElem?_step_of_ne s hlt fun hticket => hj ?_
    rw [habout] at hticket
    exact (Option.some.inj hticket).symm
  · have hnone := Nat.le_of_not_lt hlt
    rw [List.getElem?_eq_none hnone,
      List.getElem?_eq_none ((length_step_of_ticket habout).trans_le hnone)]

/-- A call that comes to nothing makes no text known. -/
theorem unknown_of_lost (horderly : s.Orderly) (hvalue : (s.versions.get release).value = none)
    {gone : Nat} (habout : event.ticket? = some gone) {lost : Phase}
    (hgone : (s.step event).At release gone lost) (hlost : lost.isLost = true) :
    ((s.step event).versions.get release).value = none := by
  refine Option.eq_none_iff_forall_ne_some.mpr fun text hfound => ?_
  obtain ⟨j, hj⟩ := (horderly.step event).found release text hvalue hfound
  by_cases hne : j = gone
  · subst hne
    rw [hgone.unique hj] at hlost
    cases hlost
  · obtain ⟨asked, hj⟩ := hj
    rw [getElem?_step_of_ticket habout hne] at hj
    rw [(horderly release).kept j text ⟨asked, hj⟩] at hvalue
    cases hvalue

/-- **The turn passes to the next call** when one fails or is given up. -/
theorem turn_passes {gone : Nat} (habout : event.ticket? = some gone) {lost : Phase}
    (hgone : (s.step event).At release gone lost) (hlost : lost.isLost = true) {next : Event}
    (hnext : s.IsNext release gone next k adapter) :
    (s.step event).TakesTurn release next k adapter := by
  have hclosed : ∀ phase, (s.step event).At release gone phase → phase.isOpen = false := by
    intro phase hphase
    rw [← hgone.unique hphase]
    cases lost with
    | cancelled => rfl
    | finished reply => rfl
    | _ => cases hlost
  have hothers : ∀ j phase, j ≠ gone → (s.step event).At release j phase →
      s.At release j phase := by
    rintro j phase hne ⟨asked, hj⟩
    rw [getElem?_step_of_ticket habout hne] at hj
    exact ⟨asked, hj⟩
  cases hnext with
  | resume other call oldest =>
    refine .resume ((getElem?_step_of_ticket habout other).trans call) fun j phase hj hopen => ?_
    by_cases hne : j = gone
    · subst hne
      rw [hclosed phase hj] at hopen
      cases hopen
    · exact oldest j phase (hothers j phase hne hj) hopen hne
  | call allowed alone =>
    rw [← length_step_of_ticket habout]
    refine .call allowed fun j phase hj => ?_
    by_cases hne : j = gone
    · subst hne
      exact hclosed phase hj
    · exact alone j phase (hothers j phase hne hj) hne

end Session

end Arboretum
