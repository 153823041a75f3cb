import Arboretum.Adapter.Error
import Arboretum.Engine.Basic

/-!
# Loading engines

A loader keeps the engine of one release of a package. Its history is divided into epochs by
invalidations; each epoch has a slot that starts absent, is loading from the first load on and is
settled by its acquisition. An acquisition runs on its own: it settles the slot it was started for
and sends its outcome over a channel to the loads that wait for it. Loads that come while it runs
wait at the same channel, later ones get the settled outcome, and an acquisition of an earlier
epoch does not reach the current slot.

`EngineSet` holds the loaders of a package: one for the default release and one for each release
that was asked for.
-/

namespace Arboretum

/-- A release of a package; none stands for the default one. -/
abbrev Release := Option String

/-- A loaded engine. An epoch of a loader acquires at most once, so release and epoch tell
handles apart. -/
structure Handle where
  release : Release
  epoch : Nat
  engine : Engine

/-- The outcome of an acquisition. -/
abbrev Outcome := Except LoadCause Handle

/-- How an acquisition ends: with an engine, with a failure, or without any outcome. -/
inductive Ending where
  | acquired (engine : Engine)
  | failed (cause : LoadCause)
  | abandoned

/-- The outcome of an acquisition for an epoch, if it has one. -/
def Ending.outcome? (release : Release) (epoch : Nat) : Ending → Option Outcome
  | .acquired engine => some (.ok ⟨release, epoch, engine⟩)
  | .failed cause => some (.error cause)
  | .abandoned => none

/-- The slot of an epoch. -/
inductive Slot where
  | absent
  /-- The outcome comes over the channel of an acquisition. -/
  | loading (acquisition : Nat)
  | settled (outcome : Outcome)

/-- What those who wait at the channel of an acquisition see. -/
inductive Channel where
  /-- Nothing yet. -/
  | silent
  | sent (outcome : Outcome)
  /-- Nothing was sent, and nothing will be. -/
  | closed

/-- An acquisition that was started: the epoch whose slot it settles, and its channel, which is
silent as long as it runs. -/
structure Acquisition where
  epoch : Nat
  channel : Channel

/-- What a loader shows of its slot. -/
inductive LoadState where
  | absent
  | loading
  | loaded
  | failed
  deriving DecidableEq, Repr

def LoadState.name : LoadState → String
  | .absent => "Absent"
  | .loading => "Loading"
  | .loaded => "Loaded"
  | .failed => "Failed"

/-- A slot whose acquisition ended without an outcome still shows as loading. -/
def Slot.state : Slot → LoadState
  | .absent => .absent
  | .loading _ => .loading
  | .settled (.ok _) => .loaded
  | .settled (.error _) => .failed

/-- The loader of one release: the slots of earlier epochs, oldest first, and the current one. -/
structure Loader where
  package : String
  release : Release
  earlier : List Slot
  current : Slot
  /-- The acquisitions that were started, oldest first. -/
  started : List Acquisition
  /-- How many acquisitions were started. -/
  acquisitions : Nat

/-- Where a load stands after its first look at the slot. -/
inductive Joined where
  | returned (outcome : Outcome)
  /-- It waits at the channel of an acquisition. -/
  | waits (acquisition : Nat)

namespace Loader

def new (package : String) (release : Release) : Loader := ⟨package, release, [], .absent, [], 0⟩

/-- The current epoch. -/
def epoch (loader : Loader) : Nat := loader.earlier.length

def state (loader : Loader) : LoadState := loader.current.state

/-- Starts an acquisition for the current slot. -/
def spawn (loader : Loader) : Loader :=
  { loader with
    current := .loading loader.started.length
    started := loader.started ++ [⟨loader.epoch, .silent⟩]
    acquisitions := loader.acquisitions + 1 }

/-- A load: it takes the settled outcome or waits for the acquisition of the current epoch, which
it starts if there is none. -/
def load (loader : Loader) : Loader × Joined :=
  match loader.current with
  | .settled outcome => (loader, .returned outcome)
  | .loading acquisition => (loader, .waits acquisition)
  | .absent => (loader.spawn, .waits loader.started.length)

/-- The number of the acquisition a load would start. -/
def starts? (loader : Loader) : Option Nat :=
  match loader.current with
  | .absent => some loader.started.length
  | _ => none

/-- Puts an outcome into the slot of an epoch. -/
def settle (loader : Loader) (epoch : Nat) (outcome : Outcome) : Loader :=
  if epoch = loader.epoch then { loader with current := .settled outcome }
  else { loader with earlier := loader.earlier.set epoch (.settled outcome) }

/-- Sets what is seen at the channel of an acquisition. -/
def publish (loader : Loader) (acquisition : Nat) (channel : Channel) : Loader :=
  { loader with
    started := loader.started.modify acquisition fun a => { a with channel } }

/-- An acquisition that runs ends. With an outcome it settles its slot and sends the outcome; the
channel of one without is closed and its slot left as it is. -/
def finish (loader : Loader) (acquisition : Nat) (ending : Ending) : Loader :=
  match loader.started[acquisition]? with
  | some ⟨epoch, .silent⟩ =>
    match ending.outcome? loader.release epoch with
    | some outcome => (loader.settle epoch outcome).publish acquisition (.sent outcome)
    | none => loader.publish acquisition .closed
  | _ => loader

/-- Begins a new epoch; acquisitions that run go on for those who wait for them. -/
def invalidate (loader : Loader) : Loader :=
  { loader with earlier := loader.earlier ++ [loader.current], current := .absent }

/-- What a load returns for an outcome. -/
def result (loader : Loader) : Outcome → Except Error Handle
  | .ok handle => .ok handle
  | .error cause => .error (.engineLoad loader.package cause)

/-- What a load that waits for an acquisition returns, once something is to be seen at its
channel. -/
def received? (loader : Loader) (acquisition : Nat) : Option (Except Error Handle) :=
  match loader.started[acquisition]? with
  | some ⟨_, .sent outcome⟩ => some (loader.result outcome)
  | some ⟨_, .closed⟩ => some (loader.result (.error .abandoned))
  | _ => none

/-- A loader, with the description of its source. -/
def describe (loader : Loader) (source : String) : String :=
  Text.record "ModuleLoader" [("package", Text.quoted loader.package),
    ("version", Text.optional (loader.release.map Text.quoted)),
    ("source", Text.quoted source), ("state", loader.state.name)]

end Loader

/-- The loaders of one package; the pinned ones are in increasing order of their release. -/
structure EngineSet where
  default : Loader
  pinned : List (String × Loader)

namespace EngineSet

def new (package : String) : EngineSet := ⟨Loader.new package none, []⟩

def package (set : EngineSet) : String := set.default.package

def pinnedGet? : List (String × Loader) → String → Option Loader
  | [], _ => none
  | (k, loader) :: rest, key => if k = key then some loader else pinnedGet? rest key

/-- Puts a loader under its release, in order. -/
def pinnedPut : List (String × Loader) → String → Loader → List (String × Loader)
  | [], key, loader => [(key, loader)]
  | (k, l) :: rest, key, loader =>
    if key < k then (key, loader) :: (k, l) :: rest
    else if key = k then (k, loader) :: rest
    else (k, l) :: pinnedPut rest key loader

/-- The loader of a release, if it was looked up before. -/
def loader? (set : EngineSet) : Release → Option Loader
  | none => some set.default
  | some r => pinnedGet? set.pinned r

/-- The loader of a release as a look-up finds it: fresh if there was none. -/
def loader (set : EngineSet) (release : Release) : Loader :=
  (set.loader? release).getD (Loader.new set.package release)

/-- Changes the loader of a release, which is made if there was none. -/
def modify (set : EngineSet) (release : Release) (change : Loader → Loader) : EngineSet :=
  match release with
  | none => { set with default := change set.default }
  | some r => { set with pinned := pinnedPut set.pinned r (change (set.loader release)) }

/-- Looks a loader up, making it if there was none. -/
def lookUp (set : EngineSet) (release : Release) : EngineSet := set.modify release id

/-- An acquisition of a release ends. A release that was never looked up has no acquisition, and
gets no loader by this. -/
def finish (set : EngineSet) (release : Release) (acquisition : Nat) (ending : Ending) :
    EngineSet :=
  match set.loader? release with
  | some _ => set.modify release fun loader => loader.finish acquisition ending
  | none => set

/-- The releases with a loader of their own. -/
def pinnedVersions (set : EngineSet) : List String := set.pinned.map Prod.fst

def describe (set : EngineSet) (source : String) : String :=
  Text.record "EngineSet" [("default", set.default.describe source),
    ("pinned", Text.bracketList (set.pinnedVersions.map Text.quoted))]

end EngineSet

end Arboretum
