import Arboretum.Session.Basic

/-!
# Rehearsals

A rehearsal runs a session against scripted sources. Acquisitions and fetches follow a script and
may wait at gates: named latches that stay open once they are opened. After every action the
rehearsal settles: all that can go on goes on, until only closed gates are waited for.
-/

namespace Arboretum

/-- The version a scripted engine reports. -/
inductive ScriptVersion where
  | exactly (version : Option String)
  /-- The requested release. -/
  | requested

/-- One acquisition of a script: it waits at its gate, then fails, ends without an outcome, or gives
an engine. -/
structure ScriptStep where
  gate : Option String := none
  fail : Option LoadCause := none
  abandon : Bool := false
  version : ScriptVersion := .exactly none

/-- One fetch of a script. -/
structure ScriptAnswer where
  gate : Option String := none
  answer : Except MetadataCause String

/-- Where the engines of a rehearsal come from. -/
inductive Source where
  | bundled (source : Bundled)
  /-- For each release a list of acquisitions, the last of which repeats. The default release has
  the empty key. -/
  | scripted (description enginePackage : String) (script : List (String × List ScriptStep))

namespace Source

def describe : Source → String
  | .bundled source => source.describe
  | .scripted description _ _ => description

end Source

/-- The engine of scripts: it echoes its options, refuses code with an exclamation mark at its
place, and code with a question mark without one. -/
def scriptEngine (package : String) (version : Option String) : Engine :=
  .ofParse package version fun code options =>
    let chars := code.toList
    match chars.findIdx? (· == '!') with
    | some i => .error (.located "unexpected `!`" 1 (i + 1) i)
    | none =>
      if chars.contains '?' then .error (.plain "question")
      else .ok (.ofFields [("type", .str "Root"), ("start", .ofNat 0),
        ("end", .ofNat chars.length), ("options", options), ("engine", .ofOption version)])

/-- The end of a task, to come when its gate is open. -/
structure Pending where
  gate : Option String
  event : Event

/-- A session with its script. -/
structure Rehearsal where
  session : Session
  source : Source
  /-- For each service its answers, the last of which repeats. -/
  services : List (String × List ScriptAnswer) := []
  /-- The gates that are open. -/
  opened : List String := []
  /-- How many of the started tasks were taken up. -/
  taken : Nat := 0
  pending : List Pending := []
  /-- The acquisitions so far, by key. -/
  acquired : List String := []
  /-- The fetches so far, by service. -/
  asked : List String := []

namespace Rehearsal

/-- The `n`-th item, the last one repeating. -/
def nth? {α : Type} (items : List α) (n : Nat) : Option α := items[min n (items.length - 1)]?

/-- How an acquisition of a release ends under a script step. -/
def endingOf (enginePackage : String) (release : Release) (step : ScriptStep) : Ending :=
  match step.fail with
  | some cause => .failed cause
  | none =>
    if step.abandon then .abandoned
    else .acquired (scriptEngine enginePackage (match step.version with
      | .exactly version => version
      | .requested => release))

/-- Takes up an acquisition. -/
def takeAcquisition (r : Rehearsal) (release : Release) (number : Nat) : Rehearsal :=
  match r.source with
  | .bundled source =>
    let ending := match source.acquire release with
      | .ok engine => Ending.acquired engine
      | .error cause => .failed cause
    { r with pending := r.pending ++ [⟨none, .acquired release number ending⟩] }
  | .scripted _ enginePackage script =>
    let key := release.getD ""
    let steps := match script.find? fun entry => entry.1 == key with
      | some entry => entry.2
      | none => []
    let pending := match nth? steps (r.acquired.count key) with
      | some step => ⟨step.gate, .acquired release number (endingOf enginePackage release step)⟩
      | none => ⟨none, .acquired release number (.failed (.reported ("no release " ++ key) []))⟩
    { r with acquired := key :: r.acquired, pending := r.pending ++ [pending] }

/-- Takes up a fetch. -/
def takeFetch (r : Rehearsal) (service : String) (ticket : Nat) : Rehearsal :=
  let answers := match r.services.find? fun entry => entry.1 == service with
    | some entry => entry.2
    | none => []
  let pending := match nth? answers (r.asked.count service) with
    | some a => ⟨a.gate, .fetched ticket a.answer⟩
    | none => ⟨none, .fetched ticket (.error (.reported (service ++ " has no answer") []))⟩
  { r with asked := service :: r.asked, pending := r.pending ++ [pending] }

/-- How many fetches were made. -/
def fetches (r : Rehearsal) : Nat := r.asked.length

/-- Takes up a started task. -/
def takeJob (r : Rehearsal) : Job → Rehearsal
  | .acquisition release number => r.takeAcquisition release number
  | .fetch service ticket => r.takeFetch service ticket

/-- Takes up the tasks that were started since. -/
def takeStarted (r : Rehearsal) : Rehearsal :=
  let r' := (r.session.started.drop r.taken).foldl takeJob r
  { r' with taken := r.session.started.length }

def gateOpen (r : Rehearsal) : Option String → Bool
  | none => true
  | some gate => r.opened.contains gate

/-- Ends the tasks whose gate is open. -/
def endReady (r : Rehearsal) : Rehearsal :=
  let (ready, pending) := r.pending.partition fun p => r.gateOpen p.gate
  { r with session := r.session.run (ready.map Pending.event), pending }

/-- Resumes every call once, in the order of their tickets. -/
def resumeAll (r : Rehearsal) : Rehearsal :=
  { r with session := r.session.run ((List.range r.session.calls.length).map Event.resume) }

def round (r : Rehearsal) : Rehearsal := r.takeStarted.endReady.resumeAll

def rounds : Nat → Rehearsal → Rehearsal
  | 0, r => r
  | n + 1, r => rounds n r.round

/-- Lets everything go on that can. A call waits for its turn, for an engine and for metadata at
most once each, so a few rounds for each call are enough. -/
def settle (r : Rehearsal) : Rehearsal := rounds (4 * r.session.calls.length + 4) r

/-- An event, without settling. -/
def happen (r : Rehearsal) (event : Event) : Rehearsal :=
  { r with session := r.session.step event }

/-- Starts calls together and settles. -/
def start (r : Rehearsal) (requests : List Request) : Rehearsal :=
  (requests.foldl (fun r request => r.happen (.call request)) r).settle

/-- Opens a gate and settles. -/
def openGate (r : Rehearsal) (gate : String) : Rehearsal :=
  ({ r with opened := gate :: r.opened } : Rehearsal).settle

def cancel (r : Rehearsal) (ticket : Nat) : Rehearsal := (r.happen (.cancel ticket)).settle

/-- The reply to a call, if it has finished. -/
def reply? (r : Rehearsal) (ticket : Nat) : Option Reply :=
  match r.session.calls[ticket]? with
  | some ⟨_, .finished reply⟩ => some reply
  | _ => none

end Rehearsal

end Arboretum
