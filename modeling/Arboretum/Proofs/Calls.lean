import Arboretum.Proofs.Loading
import Arboretum.Session.Basic

/-!
# How calls go on

A call of a session goes on until it waits for an acquisition, waits for a fetch, or ends. Which of
these it comes to (`Verdict`) depends on the request and on what the loader of its release gives,
and on nothing else. All a call does to a session is to enter the loader of its release and to
conclude with its verdict.

* `VersionCache.get_put`, `EngineSet.loader_modify`, `EngineSet.loader_finish`: look-ups after
  changes.
* `Session.engineReturned_eq`, `awaitEngine_eq`, `loadEngine_eq`, `resolveVersion_eq`: a call
  concludes with its verdict.
* `Session.conclude_of_not_version`: a load or a parse changes nothing but its own phase.
* `Session.TurnsInto`, `Session.StartsAs`: all that can become of a session when a call at a version
  has its turn, and when a call comes.
-/

namespace Arboretum

/-! ## Look-ups -/

namespace VersionCache

theorem get_cons (release : Release) (cell : VersionCell) (rest : VersionCache) (other : Release) :
    get ((release, cell) :: rest) other = if release = other then cell else get rest other := by
  unfold get
  by_cases h : release = other
  · simp [h]
  · simp [h]

theorem get_put (cache : VersionCache) (release other : Release) (cell : VersionCell) :
    (cache.put release cell).get other = if release = other then cell else cache.get other := by
  induction cache with
  | nil => rw [put, get_cons]
  | cons entry rest ih =>
    obtain ⟨first, old⟩ := entry
    rw [put]
    split
    · rename_i hfirst
      subst hfirst
      rw [get_cons, get_cons]
      split <;> rfl
    · rename_i hfirst
      rw [get_cons, get_cons, ih]
      split
      · rename_i hother
        subst hother
        rw [if_neg fun h => hfirst h.symm]
      · rfl

@[simp] theorem get_put_self (cache : VersionCache) (release : Release) (cell : VersionCell) :
    (cache.put release cell).get release = cell := by
  rw [get_put, if_pos rfl]

theorem get_put_of_ne (cache : VersionCache) {release other : Release} (h : release ≠ other)
    (cell : VersionCell) : (cache.put release cell).get other = cache.get other := by
  rw [get_put, if_neg h]

end VersionCache

namespace EngineSet

theorem pinnedGet?_put (pinned : List (String × Loader)) (key other : String) (loader : Loader) :
    pinnedGet? (pinnedPut pinned key loader) other =
      if key = other then some loader else pinnedGet? pinned other := by
  induction pinned with
  | nil => rfl
  | cons entry rest ih =>
    obtain ⟨first, old⟩ := entry
    rw [pinnedPut]
    split
    · rfl
    · split
      · rename_i hkey
        subst hkey
        simp only [pinnedGet?]
        split <;> rfl
      · rename_i hkey
        simp only [pinnedGet?, ih]
        split
        · rename_i hfirst
          subst hfirst
          rw [if_neg hkey]
        · rfl

/-- What a look-up finds after a change of one loader that leaves its package. -/
theorem loader_modify (set : EngineSet) (release other : Release) {change : Loader → Loader}
    (hpackage : ∀ loader, (change loader).package = loader.package) :
    (set.modify release change).loader other =
      if release = other then change (set.loader release) else set.loader other := by
  cases release with
  | none =>
    cases other with
    | none => rfl
    | some key =>
      rw [if_neg (by simp)]
      simp only [modify, loader, loader?, package, hpackage]
  | some key =>
    cases other with
    | none =>
      rw [if_neg (by simp)]
      rfl
    | some key' =>
      simp only [modify, loader, loader?, package, pinnedGet?_put]
      by_cases h : key = key'
      · subst h
        simp
      · rw [if_neg h, if_neg (by simpa using h)]

/-- Looking a loader up changes no loader. -/
theorem loader_lookUp (set : EngineSet) (release other : Release) :
    (set.lookUp release).loader other = set.loader other := by
  have h := set.loader_modify release other fun loader => (rfl : (id loader).package = _)
  rw [lookUp, h]
  split
  · rename_i heq
    rw [heq]
    rfl
  · rfl

/-- What a look-up finds after the end of an acquisition. -/
theorem loader_finish (set : EngineSet) (release other : Release) (acquisition : Nat)
    (ending : Ending) :
    (set.finish release acquisition ending).loader other =
      if release = other then (set.loader release).finish acquisition ending
      else set.loader other := by
  unfold finish
  cases hloader : set.loader? release with
  | some found =>
    exact set.loader_modify release other fun loader => loader.package_finish acquisition ending
  | none =>
    have hfresh : set.loader release = Loader.new set.package release := by
      rw [loader, hloader, Option.getD_none]
    by_cases heq : release = other
    · subst heq
      rw [if_pos rfl, hfresh]
      rfl
    · rw [if_neg heq]

end EngineSet

/-! ## Verdicts -/

/-- What a call comes to when it goes on as far as it can. -/
inductive Verdict where
  /-- It waits for an acquisition. -/
  | waits (acquisition : Nat)
  /-- It waits for a fetch from a service. -/
  | fetches (service : String)
  | ends (reply : Reply)

namespace Verdict

def phase : Verdict → Phase
  | .waits acquisition => .loading acquisition
  | .fetches _ => .fetching
  | .ends reply => .finished reply

/-- The work it starts. -/
def jobs (ticket : Nat) : Verdict → List Job
  | .fetches service => [.fetch service ticket]
  | _ => []

/-- The versions after it: a text is kept, and a call that fails leaves the queue. -/
def versions (cache : VersionCache) (ticket : Nat) : Request → Verdict → VersionCache
  | .version _ release, .ends (.version text) => cache.put release { value := some text }
  | .version _ release, .ends _ =>
    cache.put release
      { cache.get release with queue := (cache.get release).queue.erase ticket }
  | _, _ => cache

end Verdict

/-- The reply to a call for an engine. -/
def Reply.ofLoad : Except Error Handle → Reply
  | .ok loaded => .handle loaded
  | .error e => .failure e

/-- The reply to a call for a tree. -/
def Reply.ofTree : Except Error Json → Reply
  | .ok root => .tree root
  | .error e => .failure e

/-- The reply to a call for a version. -/
def Reply.ofVersion : Except Error String → Reply
  | .ok text => .version text
  | .error e => .failure e

/-- What asking a side channel comes to. -/
def Metadata.verdict (package : String) : Metadata → Verdict
  | .manifest contents => .ends (.ofVersion (result package (readManifest package contents)))
  | .remote service => .fetches service

/-- What a call for a version comes to where no engine is needed. -/
def Adapter.sideVerdict? (adapter : Adapter) (release : Release) : Option Verdict :=
  match adapter.versionSource, release with
  | .metadata _, some version => some (.ends (.version (versionText adapter.package version)))
  | .metadata source, none => some (source.verdict adapter.package)
  | _, _ => none

/-- The engine is needed for a version exactly where that does not come from a side channel. -/
theorem Adapter.sideVerdict?_eq_none_iff {adapter : Adapter} {release : Release} :
    adapter.sideVerdict? release = none ↔ ∀ source, adapter.versionSource ≠ .metadata source := by
  unfold sideVerdict?
  cases hsource : adapter.versionSource with
  | metadata source => cases release <;> simp
  | engine => simp
  | engineOrMetadata source => simp

/-- What a call for a version comes to once the engine is there. -/
def Adapter.verdict (adapter : Adapter) (release : Release) (engine : Engine) : Verdict :=
  match adapter.versionSource, reported engine release with
  | .engineOrMetadata source, none => source.verdict adapter.package
  | _, reported => .ends (.version (versionText adapter.package (reported.getD "unknown")))

namespace Request

/-- What a call comes to once its load has returned. -/
def verdict : Request → Except Error Handle → Verdict
  | .load _, result => .ends (.ofLoad result)
  | .parse adapter code user release, .ok handle =>
    .ends (.ofTree do
      let options ← adapter.prepare user release
      adapter.parseWith handle.engine code options)
  | .version adapter release, .ok handle => adapter.verdict release handle.engine
  | _, .error e => .ends (.failure e)

/-- What a call comes to that waits for an acquisition of a loader. -/
def afterWait (request : Request) (loader : Loader) (acquisition : Nat) : Verdict :=
  match loader.received? acquisition with
  | some result => request.verdict result
  | none => .waits acquisition

/-- What a call comes to that loads from a loader. -/
def afterLoad (request : Request) (loader : Loader) : Verdict :=
  match loader.load.2 with
  | .returned outcome => request.verdict (loader.result outcome)
  | .waits acquisition => request.afterWait loader.load.1 acquisition

/-- Why a call is refused before it looks for anything, if it is. -/
def refusal? : Request → Option Error
  | .load _ => none
  | .parse adapter _ user release =>
    match adapter.prepare user release with
    | .ok _ => none
    | .error e => some e
  | .version adapter release =>
    match adapter.checkOverride release with
    | .ok _ => none
    | .error e => some e

/-- Whether a version is asked for. -/
def isVersion : Request → Bool
  | .version _ _ => true
  | _ => false

theorem jobs_verdict_of_not_version {request : Request} (h : request.isVersion = false)
    (result : Except Error Handle) (ticket : Nat) : (request.verdict result).jobs ticket = [] := by
  cases request with
  | load release => cases result <;> rfl
  | parse adapter code user release => cases result <;> rfl
  | version adapter release => cases h

theorem jobs_afterWait_of_not_version {request : Request} (h : request.isVersion = false)
    (loader : Loader) (acquisition ticket : Nat) :
    (request.afterWait loader acquisition).jobs ticket = [] := by
  unfold afterWait
  split
  · exact jobs_verdict_of_not_version h _ ticket
  · rfl

end Request

/-! ## Conclusions -/

namespace Session

/-- A call comes to a verdict. -/
def conclude (s : Session) (ticket : Nat) (request : Request) (verdict : Verdict) : Session :=
  { s with
    versions := verdict.versions s.versions ticket request
    calls := s.calls.modify ticket fun call => { call with phase := verdict.phase }
    started := s.started ++ verdict.jobs ticket }

/-- A call loads from the loader of a release. -/
def enter (s : Session) (release : Release) : Session :=
  { s with
    engines := s.engines.modify release fun loader => loader.load.1
    started := s.started ++
      ((s.engines.loader release).starts?.map (Job.acquisition release)).toList }

/-- A load or a parse changes nothing but its own phase. -/
theorem conclude_of_not_version (s : Session) (ticket : Nat) {request : Request}
    (h : request.isVersion = false) {verdict : Verdict} (hjobs : verdict.jobs ticket = []) :
    s.conclude ticket request verdict = s.setPhase ticket verdict.phase := by
  have hversions : verdict.versions s.versions ticket request = s.versions := by
    cases request with
    | load release => rfl
    | parse adapter code user release => rfl
    | version adapter release => cases h
  rw [conclude, hversions, hjobs, List.append_nil]
  rfl

theorem finishVersion_eq (s : Session) (ticket : Nat) (adapter : Adapter) (release : Release)
    (result : Except Error String) :
    s.finishVersion ticket release result =
      s.conclude ticket (.version adapter release) (.ends (.ofVersion result)) := by
  cases result <;> simp [finishVersion, conclude, Verdict.versions, Verdict.jobs, Reply.ofVersion,
    leaveQueue, finish, setPhase, Verdict.phase]

theorem askMetadata_eq (s : Session) (ticket : Nat) (adapter : Adapter) (release : Release)
    (source : Metadata) :
    s.askMetadata ticket adapter release source =
      s.conclude ticket (.version adapter release) (source.verdict adapter.package) := by
  cases source with
  | manifest contents => exact finishVersion_eq s ticket adapter release _
  | remote service => rfl

theorem versionOfEngine_eq (s : Session) (ticket : Nat) (adapter : Adapter) (release : Release)
    (engine : Engine) :
    s.versionOfEngine ticket adapter release engine =
      s.conclude ticket (.version adapter release) (adapter.verdict release engine) := by
  simp only [versionOfEngine, Adapter.verdict]
  cases adapter.versionSource with
  | engine => exact finishVersion_eq s ticket adapter release (.ok _)
  | metadata source => exact finishVersion_eq s ticket adapter release (.ok _)
  | engineOrMetadata source =>
    cases Adapter.reported engine release with
    | none => exact askMetadata_eq s ticket adapter release source
    | some version => exact finishVersion_eq s ticket adapter release (.ok _)

/-- Once its load has returned, a call comes to its verdict. -/
theorem engineReturned_eq (s : Session) (ticket : Nat) (request : Request)
    (result : Except Error Handle) :
    s.engineReturned ticket request result =
      s.conclude ticket request (request.verdict result) := by
  cases request with
  | load release =>
    rw [conclude_of_not_version s ticket rfl (Request.jobs_verdict_of_not_version rfl _ _)]
    cases result <;> rfl
  | parse adapter code user release =>
    rw [conclude_of_not_version s ticket rfl (Request.jobs_verdict_of_not_version rfl _ _)]
    cases result with
    | error e => rfl
    | ok handle =>
      simp only [engineReturned, Request.verdict]
      cases (do
        let options ← adapter.prepare user release
        adapter.parseWith handle.engine code options) <;> rfl
  | version adapter release =>
    cases result with
    | ok handle => exact versionOfEngine_eq s ticket adapter release handle.engine
    | error e => exact finishVersion_eq s ticket adapter release (.error e)

theorem awaitEngine_eq (s : Session) (ticket : Nat) (request : Request) (acquisition : Nat) :
    s.awaitEngine ticket request acquisition =
      s.conclude ticket request
        (request.afterWait (s.engines.loader request.release) acquisition) := by
  unfold awaitEngine Request.afterWait
  cases (s.engines.loader request.release).received? acquisition with
  | some result => exact engineReturned_eq s ticket request result
  | none =>
    have hversions :
        (Verdict.waits acquisition).versions s.versions ticket request = s.versions := by
      cases request <;> rfl
    simp only [conclude, hversions, Verdict.jobs, List.append_nil]
    rfl

/-- A call that loads enters the loader of its release and comes to its verdict. -/
theorem loadEngine_eq (s : Session) (ticket : Nat) (request : Request) :
    s.loadEngine ticket request =
      (s.enter request.release).conclude ticket request
        (request.afterLoad (s.engines.loader request.release)) := by
  have hentered : (s.enter request.release).engines.loader request.release =
      (s.engines.loader request.release).load.1 := by
    rw [enter, EngineSet.loader_modify _ _ _ Loader.package_load, if_pos rfl]
  unfold loadEngine Request.afterLoad
  cases hjoined : (s.engines.loader request.release).load.2 with
  | returned outcome =>
    simp only [hjoined]
    exact engineReturned_eq (s.enter request.release) ticket request _
  | waits acquisition =>
    simp only [hjoined]
    rw [← hentered]
    exact awaitEngine_eq (s.enter request.release) ticket request acquisition

/-- A call whose turn it is at a version comes to its verdict, with or without the engine. -/
theorem resolveVersion_eq (s : Session) (ticket : Nat) (adapter : Adapter) (release : Release) :
    s.resolveVersion ticket adapter release =
      match adapter.sideVerdict? release with
      | some verdict => s.conclude ticket (.version adapter release) verdict
      | none => (s.enter release).conclude ticket (.version adapter release)
          ((Request.version adapter release).afterLoad (s.engines.loader release)) := by
  simp only [resolveVersion, Adapter.sideVerdict?]
  cases adapter.versionSource with
  | engine => exact loadEngine_eq s ticket (.version adapter release)
  | engineOrMetadata source => exact loadEngine_eq s ticket (.version adapter release)
  | metadata source =>
    cases release with
    | none => exact askMetadata_eq s ticket adapter none source
    | some version => exact finishVersion_eq s ticket adapter (some version) (.ok _)

/-- A call at a version whose text is known takes it. -/
theorem versionTurn_of_known {s : Session} {release : Release} {text : String}
    (h : (s.versions.get release).value = some text) (ticket : Nat) (adapter : Adapter) :
    s.versionTurn ticket adapter release = s.finish ticket (.version text) := by
  simp only [versionTurn, h]

/-- The first of the queue resolves the version, the others wait. -/
theorem versionTurn_of_unknown {s : Session} {release : Release}
    (h : (s.versions.get release).value = none) (ticket : Nat) (adapter : Adapter) :
    s.versionTurn ticket adapter release =
      if (s.versions.get release).queue.head? = some ticket then
        s.resolveVersion ticket adapter release
      else s.setPhase ticket .queued := by
  simp only [versionTurn, h]

theorem joinQueue_of_known {s : Session} {release : Release} {text : String}
    (h : (s.versions.get release).value = some text) (ticket : Nat) :
    s.joinQueue ticket release = s := by
  simp only [joinQueue, h]

theorem joinQueue_of_unknown {s : Session} {release : Release}
    (h : (s.versions.get release).value = none) (ticket : Nat) :
    s.joinQueue ticket release =
      { s with
        versions := s.versions.put release
          ⟨none, (s.versions.get release).queue ++ [ticket]⟩ } := by
  simp only [joinQueue, h]

/-- What becomes of a session when a call at a version has its turn. -/
inductive TurnsInto (s : Session) (ticket : Nat) (adapter : Adapter) (release : Release) :
    Session → Prop
  | known {text : String} (value : (s.versions.get release).value = some text) :
    TurnsInto s ticket adapter release (s.setPhase ticket (.finished (.version text)))
  | waits (value : (s.versions.get release).value = none) :
    TurnsInto s ticket adapter release (s.setPhase ticket .queued)
  | aside {verdict : Verdict} (value : (s.versions.get release).value = none)
      (head : (s.versions.get release).queue.head? = some ticket)
      (side : adapter.sideVerdict? release = some verdict) :
    TurnsInto s ticket adapter release (s.conclude ticket (.version adapter release) verdict)
  | loads (value : (s.versions.get release).value = none)
      (head : (s.versions.get release).queue.head? = some ticket)
      (side : adapter.sideVerdict? release = none) :
    TurnsInto s ticket adapter release
      ((s.enter release).conclude ticket (.version adapter release)
        ((Request.version adapter release).afterLoad (s.engines.loader release)))

theorem turnsInto_versionTurn (s : Session) (ticket : Nat) (adapter : Adapter)
    (release : Release) :
    s.TurnsInto ticket adapter release (s.versionTurn ticket adapter release) := by
  cases hvalue : (s.versions.get release).value with
  | some text =>
    rw [versionTurn_of_known hvalue]
    exact .known hvalue
  | none =>
    rw [versionTurn_of_unknown hvalue]
    split
    · rename_i hhead
      rw [resolveVersion_eq]
      split
      · rename_i hside
        exact .aside hvalue hhead hside
      · rename_i hside
        exact .loads hvalue hhead hside
    · exact .waits hvalue

/-- A new call takes its ticket. -/
def enlist (s : Session) (request : Request) : Session :=
  { s with calls := s.calls ++ [⟨request, .queued⟩] }

theorem start_of_refused {request : Request} {e : Error} (h : request.refusal? = some e)
    (s : Session) :
    s.start request = (s.enlist request).finish s.calls.length (.failure e) := by
  cases request with
  | load release => cases h
  | parse adapter code user release =>
    simp only [Request.refusal?] at h
    split at h
    · cases h
    · rename_i hprepare
      cases h
      simp only [start, hprepare]
      rfl
  | version adapter release =>
    simp only [Request.refusal?] at h
    split at h
    · cases h
    · rename_i hoverride
      cases h
      simp only [start, hoverride]
      rfl

/-- A call for a version joins the queue at it and takes its turn. -/
theorem start_version {adapter : Adapter} {release : Release}
    (h : (Request.version adapter release).refusal? = none) (s : Session) :
    s.start (.version adapter release) =
      ((s.enlist (.version adapter release)).joinQueue s.calls.length release).versionTurn
        s.calls.length adapter release := by
  simp only [Request.refusal?] at h
  split at h
  · rename_i hoverride
    simp only [start, hoverride]
    rfl
  · cases h

/-- Any other call loads the engine. -/
theorem start_of_not_version {request : Request} (hversion : request.isVersion = false)
    (h : request.refusal? = none) (s : Session) :
    s.start request = (s.enlist request).loadEngine s.calls.length request := by
  cases request with
  | load release => rfl
  | parse adapter code user release =>
    simp only [Request.refusal?] at h
    split at h
    · rename_i hprepare
      simp only [start, hprepare]
      rfl
    · cases h
  | version adapter release => cases hversion

/-- What becomes of a session when a call comes. -/
inductive StartsAs (s : Session) (request : Request) : Session → Prop
  | refused {e : Error} :
    StartsAs s request ((s.enlist request).setPhase s.calls.length (.finished (.failure e)))
  | loads (version : request.isVersion = false) :
    StartsAs s request
      (((s.enlist request).enter request.release).conclude s.calls.length request
        (request.afterLoad (s.engines.loader request.release)))
  | turns {adapter : Adapter} {release : Release} {t : Session}
      (version : request = .version adapter release)
      (turn : ((s.enlist request).joinQueue s.calls.length release).TurnsInto s.calls.length
        adapter release t) :
    StartsAs s request t

theorem startsAs_start (s : Session) (request : Request) :
    s.StartsAs request (s.start request) := by
  cases hrefusal : request.refusal? with
  | some e =>
    rw [start_of_refused hrefusal]
    exact .refused
  | none =>
    cases hversion : request.isVersion with
    | false =>
      rw [start_of_not_version hversion hrefusal, loadEngine_eq]
      exact .loads hversion
    | true =>
      cases request with
      | version adapter release =>
        rw [start_version hrefusal]
        exact .turns rfl (turnsInto_versionTurn _ _ _ _)
      | _ => cases hversion

end Session

end Arboretum
