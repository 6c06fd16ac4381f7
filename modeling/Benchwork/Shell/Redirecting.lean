/-
Redirecting streams, and giving variables their values.

A redirection makes a number stand for a file, for another stream, or for a text of the script. One that fails is
complained about.
-/
import Benchwork.Shell.Expansion

namespace Benchwork.Shell

open Benchwork.Text

namespace Redirecting

/-- complains about a file that could not be opened -/
def complainOpen (writes : Bool) (name : String) (e : Fault) : Running Unit := do
  if ← Running.isPlain then
    let isMissing := e = .notFound || e = .notDirectory
    let reason := if isMissing then (if writes then "Directory nonexistent" else "No such file") else e.description
    Running.complain ((if writes then "cannot create " else "cannot open ") ++ name ++ ": " ++ reason)
  else Running.complain (name ++ ": " ++ e.description)

/-- makes a number stand for a stream that another number stands for -/
def copyStream (stream : Nat) (target : String) : Running Bool := do
  let p ← Running.process
  if target = "-" then do
    Running.modifyProcess (·.close stream)
    return true
  else
    match Number.digits? target.toList with
    | some n =>
      match p.slot? n with
      | some slot => do
        Running.modifyProcess (·.point stream slot)
        return true
      | none => do
        Running.complain (target ++ ": Bad file descriptor")
        return false
    | none => do
      if ← Running.isPlain then do
        Running.modifyFrame fun f => { f with line := f.lineRead }
        Running.fail "Syntax error: Bad fd number"
      else do
        Running.complain (target ++ ": ambiguous redirect")
        return false

/-- makes a number stand for a file -/
def openFile (stream : Nat) (mode : OpenMode) (force : Bool) (name : String) : Running Bool := do
  let p ← Running.process
  match Process.device? name with
  | some n => copyStream stream (toString n)
  | none =>
    match mode with
    | .read | .both =>
      match if mode = .both then (p.files.touch (Process.pathOf name)).map fun files => { p with files } else .ok p with
      | .error e => do
        complainOpen true name e
        return false
      | .ok q =>
        match q.openRead name with
        | .ok s => do
          Running.modifyProcess fun _ => q.attach stream s
          return true
        | .error e => do
          complainOpen false name e
          return false
    | .write | .append =>
      let isThere := match p.files.node .target (Process.pathOf name) with
        | .ok (.file _ _) => name ≠ "/dev/null"
        | _ => false
      if mode = .write && !force && isThere && (← Running.isOn "noclobber") then do
        if ← Running.isPlain then Running.complain ("cannot create " ++ name ++ ": File exists")
        else Running.complain (name ++ ": cannot overwrite existing file")
        return false
      else
        match p.openWrite (mode = .append) name with
        | .ok (s, files) => do
          Running.modifyProcess fun p => { p with files }.attach stream s
          return true
        | .error e => do
          complainOpen true name e
          return false

/-- carries out one redirection; says whether it could be -/
def redirectOne (setting : Expansion.Setting) (fuel : Nat) (r : Redirection) : Running Bool := do
  match r with
  | .file stream mode w => do openFile stream mode false (← Expansion.singleOf setting fuel w)
  | .force stream w => do openFile stream .write true (← Expansion.singleOf setting fuel w)
  | .copy stream w => do
    let target ← Expansion.singleOf setting fuel w
    let f ← Running.frame
    if f.dialect = .extended && stream = 1 && target ≠ "-" && (Number.digits? target.toList).isNone then do
      if ← openFile 1 .write false target then copyStream 2 "1" else return false
    else copyStream stream target
  | .document stream w => do
    let text ← Expansion.textOf setting fuel w
    Running.modifyProcess (·.attach stream (.source (Octets.toBytes text)))
    return true
  | .outputs append w => do
    let target ← Expansion.singleOf setting fuel w
    if ← openFile 1 (if append then .append else .write) false target then copyStream 2 "1" else return false

/-- carries out redirections up to one that fails -/
def redirectAll (setting : Expansion.Setting) (fuel : Nat) : List Redirection → Running Bool
  | [] => return true
  | r :: rest => do
    if ← redirectOne setting fuel r then redirectAll setting fuel rest else return false

/-! ## Assignments -/

/-- the place that an index names: a key of a table, or a number, which counts from the end if it is negative -/
def placeKey (setting : Expansion.Setting) (fuel : Nat) (name : String) (index : Word) : Running String := do
  match (← Running.lookup? name).bind (·.value) with
  | some (.table _) => Expansion.textOf setting fuel index
  | current => do
    let i ← Expansion.calculate (← Expansion.textOf setting fuel index)
    let last := ((current.bind fun v => v.items.getLast?).map (·.1)).getD 0
    return toString (if i < 0 then ((last : Int) + 1 + i).toNat else i.toNat)

/-- gives a variable the value of an assignment; gives name and value as text -/
def assignOne (setting : Expansion.Setting) (fuel : Nat) (a : Assignment) : Running (String × String) := do
  match a with
  | .text name none append w => do
    let value ← Expansion.valueOf setting fuel w
    let current := (← Running.parameter? name).getD ""
    let isNumber := ((← Running.lookup? name).map (·.isNumber)).getD false
    let value ← if isNumber then do
        let sum := if append then (if current = "" then "0" else current) ++ "+(" ++ value ++ ")" else value
        pure (toString (← Expansion.calculate sum))
      else pure (if append then current ++ value else value)
    Running.assign name value
    return (name, value)
  | .text name (some index) append w => do
    let value ← Expansion.valueOf setting fuel w
    let key ← placeKey setting fuel name index
    let current := (((← Running.lookup? name).bind (·.value)).bind (·.place? key)).getD ""
    let before := if append then current else ""
    Running.assignPlace name key (before ++ value)
    return (name, before ++ value)
  | .list name append values => do
    let current := (← Running.lookup? name).bind (·.value)
    match current with
    | some (.table items) =>
      if !append then Running.assignValue name (.table [])
      else Running.assignValue name (.table items)
    | _ =>
      let kept := if append then (current.map Value.items).getD [] else []
      let ws := values.filter (·.1.isNone)
      if ws.length = values.length then
        let texts ← Expansion.fieldsOfAll setting fuel (ws.map (·.2))
        let start := (kept.getLast?.map (·.1 + 1)).getD 0
        Running.assignValue name (.list (kept ++ texts.zipIdx.map fun (v, i) => (start + i, v)))
      else Running.assignValue name (.list kept)
    if values.any (·.1.isSome) then
      for (key, w) in values do
        let texts ← match key with
          | some _ => do pure [← Expansion.valueOf setting fuel w]
          | none => Expansion.fieldsOf setting fuel w
        for text in texts do
          let place ← match key with
            | some k => placeKey setting fuel name k
            | none => do
              let items := (((← Running.lookup? name).bind (·.value)).map Value.items).getD []
              pure (toString ((items.getLast?.map (·.1 + 1)).getD 0))
          Running.assignPlace name place text
    return (name, "")

end Redirecting

end Benchwork.Shell
