import Arboretum.Adapter.Basic
import Arboretum.Engine.Loader

/-!
# Sessions

A session runs calls on adapters that share the engines of one package and one cache of versions:
an adapter, its copies and the adapters derived from it. It is a state machine. Calls start, wait
for an engine, for metadata or for their turn at a version, and are resumed; acquisitions and
fetches end from outside. Every interleaving of these events is a run (`Session.run`). It is assumed
that calls run on one thread, so what a call does between two of its waits is one event.

A version is resolved by one call at a time for each release: the calls on a release queue up, the
first of the queue resolves, and on its failure or cancellation the next one does. A resolved
version is kept for good; a failure is not kept.
-/

namespace Arboretum

/-- The version of one release: the text once it is known, and the calls that wait for it, first the
one that resolves it. -/
structure VersionCell where
  value : Option String := none
  queue : List Nat := []
  deriving DecidableEq, Repr

/-- The versions by release. -/
abbrev VersionCache := List (Release × VersionCell)

namespace VersionCache

def get (cache : VersionCache) (release : Release) : VersionCell :=
  match cache.find? fun entry => entry.1 == release with
  | some entry => entry.2
  | none => {}

/-- Puts a cell, replacing the one of its release. -/
def put : VersionCache → Release → VersionCell → VersionCache
  | [], release, cell => [(release, cell)]
  | (r, c) :: rest, release, cell =>
    if r = release then (r, cell) :: rest else (r, c) :: put rest release cell

end VersionCache

/-- What a caller asks for. -/
inductive Request where
  /-- The engine of a release. -/
  | load (release : Release)
  | parse (adapter : Adapter) (code : String) (user : Option OptionsValue) (release : Release)
  | version (adapter : Adapter) (release : Release)

def Request.release : Request → Release
  | .load release => release
  | .parse _ _ _ release => release
  | .version _ release => release

/-- What a caller gets. -/
inductive Reply where
  | handle (handle : Handle)
  | tree (tree : Json)
  | version (text : String)
  | failure (error : Error)

/-- Where a call stands. -/
inductive Phase where
  /-- Waits for its turn at a version. -/
  | queued
  /-- Waits for an acquisition. -/
  | loading (acquisition : Nat)
  /-- Waits for metadata. -/
  | fetching
  | finished (reply : Reply)
  | cancelled

structure Call where
  request : Request
  phase : Phase

/-- Work that was started and ends from outside. -/
inductive Job where
  | acquisition (release : Release) (number : Nat)
  /-- A fetch of metadata for a call. -/
  | fetch (service : String) (ticket : Nat)
  deriving DecidableEq, Repr

/-- The state of a session. The ticket of a call is its position among the calls. -/
structure Session where
  engines : EngineSet
  versions : VersionCache := []
  calls : List Call := []
  /-- The tasks started so far, in order. -/
  started : List Job := []

/-- What can happen in a session. -/
inductive Event where
  | call (request : Request)
  /-- The caller gives up. -/
  | cancel (ticket : Nat)
  /-- A waiting call looks whether it can go on. -/
  | resume (ticket : Nat)
  /-- The loader of a release is looked up. -/
  | lookUp (release : Release)
  | invalidate (release : Release)
  /-- An acquisition ends. -/
  | acquired (release : Release) (acquisition : Nat) (ending : Ending)
  /-- The fetch for a call ends. -/
  | fetched (ticket : Nat) (answer : Except MetadataCause String)

namespace Session

/-- A session on a package with nothing loaded. -/
def new (package : String) : Session := { engines := .new package }

def setPhase (s : Session) (ticket : Nat) (phase : Phase) : Session :=
  { s with calls := s.calls.modify ticket fun call => { call with phase } }

def finish (s : Session) (ticket : Nat) (reply : Reply) : Session :=
  s.setPhase ticket (.finished reply)

/-- Ends a call with a tree or a failure. -/
def finishParse (s : Session) (ticket : Nat) : Except Error Json → Session
  | .ok tree => s.finish ticket (.tree tree)
  | .error e => s.finish ticket (.failure e)

/-! ## Versions -/

/-- Removes a call from the queue at a version. -/
def leaveQueue (s : Session) (ticket : Nat) (release : Release) : Session :=
  let cell := s.versions.get release
  { s with versions := s.versions.put release { cell with queue := cell.queue.erase ticket } }

/-- Ends the resolution of a version: a text is kept and the queue dissolves, a failure lets the
next call of the queue try. -/
def finishVersion (s : Session) (ticket : Nat) (release : Release) :
    Except Error String → Session
  | .ok text =>
    let s : Session := { s with versions := s.versions.put release { value := some text } }
    s.finish ticket (.version text)
  | .error e => (s.leaveQueue ticket release).finish ticket (.failure e)

/-- Asks a side channel: a manifest answers at once, a service later. -/
def askMetadata (s : Session) (ticket : Nat) (adapter : Adapter) (release : Release)
    (source : Metadata) : Session :=
  match source with
  | .manifest contents =>
    s.finishVersion ticket release
      (Metadata.result adapter.package (Metadata.readManifest adapter.package contents))
  | .remote service =>
    { s.setPhase ticket .fetching with started := s.started ++ [.fetch service ticket] }

/-- Goes on with a version once the engine is there. -/
def versionOfEngine (s : Session) (ticket : Nat) (adapter : Adapter) (release : Release)
    (engine : Engine) : Session :=
  let reported := Adapter.reported engine release
  match adapter.versionSource, reported with
  | .engineOrMetadata source, none => s.askMetadata ticket adapter release source
  | _, reported =>
    s.finishVersion ticket release (.ok (versionText adapter.package (reported.getD "unknown")))

/-! ## Engines -/

/-- Goes on with a call once its load has returned. -/
def engineReturned (s : Session) (ticket : Nat) :
    Request → Except Error Handle → Session
  | .load _, .ok handle => s.finish ticket (.handle handle)
  | .load _, .error e => s.finish ticket (.failure e)
  | .parse adapter code user release, .ok handle =>
    s.finishParse ticket (do
      let options ← adapter.prepare user release
      adapter.parseWith handle.engine code options)
  | .parse .., .error e => s.finish ticket (.failure e)
  | .version adapter release, .ok handle =>
    s.versionOfEngine ticket adapter release handle.engine
  | .version _ release, .error e => s.finishVersion ticket release (.error e)

/-- Waits for an acquisition, or goes on if it has ended. -/
def awaitEngine (s : Session) (ticket : Nat) (request : Request) (acquisition : Nat) : Session :=
  match (s.engines.loader request.release).received? acquisition with
  | some result => s.engineReturned ticket request result
  | none => s.setPhase ticket (.loading acquisition)

/-- Loads the engine of a release for a call; the first load of an epoch starts an acquisition. -/
def loadEngine (s : Session) (ticket : Nat) (request : Request) : Session :=
  let release := request.release
  let loader := s.engines.loader release
  let s : Session := { s with
    engines := s.engines.modify release fun loader => loader.load.1
    started := s.started ++ (loader.starts?.map (Job.acquisition release)).toList }
  match loader.load.2 with
  | .returned outcome => s.engineReturned ticket request (loader.result outcome)
  | .waits acquisition => s.awaitEngine ticket request acquisition

/-- Resolves a version for the call whose turn it is. -/
def resolveVersion (s : Session) (ticket : Nat) (adapter : Adapter) (release : Release) :
    Session :=
  match adapter.versionSource, release with
  | .metadata _, some version =>
    s.finishVersion ticket release (.ok (versionText adapter.package version))
  | .metadata source, none => s.askMetadata ticket adapter release source
  | _, _ => s.loadEngine ticket (.version adapter release)

/-- A call at a version: it takes a known text, resolves the version if it is first in the queue,
and waits otherwise. -/
def versionTurn (s : Session) (ticket : Nat) (adapter : Adapter) (release : Release) : Session :=
  let cell := s.versions.get release
  match cell.value with
  | some text => s.finish ticket (.version text)
  | none =>
    if cell.queue.head? = some ticket then s.resolveVersion ticket adapter release
    else s.setPhase ticket .queued

/-- Joins the queue at a version that is not known yet. -/
def joinQueue (s : Session) (ticket : Nat) (release : Release) : Session :=
  let cell := s.versions.get release
  match cell.value with
  | some _ => s
  | none =>
    { s with versions := s.versions.put release { cell with queue := cell.queue ++ [ticket] } }

/-! ## Steps -/

/-- Starts a call; it runs as far as it can without waiting. -/
def start (s : Session) (request : Request) : Session :=
  let ticket := s.calls.length
  let s : Session := { s with calls := s.calls ++ [⟨request, .queued⟩] }
  match request with
  | .load _ => s.loadEngine ticket request
  | .parse adapter _ user release =>
    match adapter.prepare user release with
    | .ok _ => s.loadEngine ticket request
    | .error e => s.finish ticket (.failure e)
  | .version adapter release =>
    match adapter.checkOverride release with
    | .ok _ => (s.joinQueue ticket release).versionTurn ticket adapter release
    | .error e => s.finish ticket (.failure e)

/-- A waiting call goes on if what it waits for is there. -/
def resume (s : Session) (ticket : Nat) : Session :=
  match s.calls[ticket]? with
  | none => s
  | some call =>
    match call.phase, call.request with
    | .queued, .version adapter release => s.versionTurn ticket adapter release
    | .loading acquisition, request => s.awaitEngine ticket request acquisition
    | _, _ => s

/-- A call is given up, even one that has finished. The acquisition it waits for goes on; a version
it was resolving is left to the next call of the queue. -/
def cancel (s : Session) (ticket : Nat) : Session :=
  match s.calls[ticket]? with
  | none => s
  | some call =>
    let s := s.setPhase ticket .cancelled
    match call.phase, call.request with
    | .finished _, _ => s
    | .cancelled, _ => s
    | _, .version _ release => s.leaveQueue ticket release
    | _, _ => s

/-- The fetch for a call ends. -/
def fetched (s : Session) (ticket : Nat) (answer : Except MetadataCause String) : Session :=
  match s.calls[ticket]? with
  | some ⟨.version adapter release, .fetching⟩ =>
    s.finishVersion ticket release (Metadata.result adapter.package answer)
  | _ => s

/-- One event. -/
def step (s : Session) : Event → Session
  | .call request => s.start request
  | .cancel ticket => s.cancel ticket
  | .resume ticket => s.resume ticket
  | .lookUp release => { s with engines := s.engines.lookUp release }
  | .invalidate release => { s with engines := s.engines.modify release Loader.invalidate }
  | .acquired release acquisition ending =>
    { s with engines := s.engines.finish release acquisition ending }
  | .fetched ticket answer => s.fetched ticket answer

/-- Events one after another. -/
def run (s : Session) (events : List Event) : Session := events.foldl step s

end Session

end Arboretum
