/-
Tools that change the file tree.

They make, remove, copy, move and link files and directories, and say in the same words why they cannot. A file that is
copied or moved to a directory goes into it under its last name.
-/
import Benchwork.Shell.Tool.Basic

namespace Benchwork.Shell.Tool

open Benchwork.Text Tooling

/-! ## Names -/

/-- a name without the slashes at its end, unless it is nothing else -/
def withoutSlashes (s : String) : String :=
  let kept := (s.toList.reverse.dropWhile (· = '/')).reverse
  if kept.isEmpty && s ≠ "" then "/" else String.ofList kept

/-- the last name of a path -/
def lastName (s : String) : String :=
  let s := withoutSlashes s
  if s = "/" then s else String.ofList (s.toList.reverse.takeWhile (· ≠ '/')).reverse

/-- a name inside a directory -/
def inside (dir name : String) : String := if dir.endsWith "/" then dir ++ name else dir ++ "/" ++ name

def nodeOf (purpose : FileStore.Purpose) (name : String) : Tooling (Except Fault Node) := do
  return (← get).files.node purpose (Process.pathOf name)

def isDirectory (name : String) : Tooling Bool := do return (← get).files.isDir (Process.pathOf name)

/-- tries a change, and complains if it cannot be made -/
def attempt (what : String) (f : FileStore → Except Fault FileStore) : Tooling Bool := do
  match ← change f with
  | none => return true
  | some e => do
    complain (what ++ ": " ++ e.description)
    return false

/-! ## Marks of execution -/

/-- the mark that one clause of a mode leaves, if it can be read -/
def applyClause (isDir before : Bool) (clause : List Char) : Option Bool :=
  let who := clause.takeWhile fun c => "ugoa".contains c
  match clause.dropWhile fun c => "ugoa".contains c with
  | op :: perms =>
    if !"+-=".contains op || !(perms.all fun c => "rwxXst".contains c) then none
    else
      let everyone := who.isEmpty || who.contains 'a' || ['u', 'g', 'o'].all who.contains
      let marks := perms.contains 'x' || (perms.contains 'X' && (isDir || before))
      match op with
      | '+' => some (before || marks)
      | '-' => some (before && !(marks && everyone))
      | _ => some (marks || (before && !everyone))
  | [] => none

/-- the mark that a mode leaves, if it can be read -/
def applyMode (mode : String) (isDir before : Bool) : Option Bool :=
  let cs := mode.toList
  if !cs.isEmpty && cs.length ≤ 5 && cs.all fun c => '0' ≤ c && c ≤ '7' then
    some ((cs.reverse.take 3).any fun c => (c.toNat - 48) % 2 = 1)
  else (cs.splitOn ',').foldlM (applyClause isDir) before

/-! ## Directories -/

/-- the paths from the first name on to the whole -/
def pathStages (name : String) : List String :=
  let pieces := name.toList.splitOn '/'
  let stages := (List.range pieces.length).map fun i =>
    String.ofList (List.flatten ((pieces.take (i + 1)).intersperse ['/']))
  let full := withoutSlashes name
  (stages.filter fun s => s ≠ "" && !s.endsWith "/" && s.length < full.length) ++ [full]

/-- makes a directory and those above it -/
def makeAll (verbose : Bool) (name : String) : Tooling Bool := do
  let self ← read
  let stages := pathStages name
  let mut good := true
  for (stage, i) in stages.zipIdx do
    if good then
      if ← isDirectory stage then pure ()
      else
        match ← change (·.makeDir (Process.pathOf stage)) with
        | none => if verbose then say (self ++ ": created directory " ++ quoted stage ++ "\n")
        | some e => do
          let e := if e = .exists && i + 1 < stages.length then Fault.notDirectory else e
          complain ("cannot create directory " ++ literal stage ++ ": " ++ e.description)
          good := false
  return good

def mkdir (args : List String) : Tooling Nat := do
  let c ← choices 1
    [⟨"p", ["parents"], false⟩, ⟨"v", ["verbose"], false⟩, ⟨"m", ["mode"], true⟩, ⟨"Z", [], false⟩] args
  needOperand c "missing operand"
  let self ← read
  match c.value? "m" with
  | some mode =>
    if (applyMode mode true true).isNone then
      complain ("invalid mode " ++ literal mode)
      quit 1
  | none => pure ()
  onEach c.operands fun name => do
    if c.has "p" then makeAll (c.has "v") name
    else do
      let made ← attempt ("cannot create directory " ++ literal name) (·.makeDir (Process.pathOf name))
      if made && c.has "v" then say (self ++ ": created directory " ++ quoted name ++ "\n")
      return made

/-- takes away an empty directory -/
def removeEmpty (name : String) (fs : FileStore) : Except Fault FileStore := do
  match fs.node .itself (Process.pathOf name) with
  | .error e => .error e
  | .ok (.dir []) => fs.remove (FileStore.dropSlashes (Process.pathOf name))
  | .ok (.dir _) => .error .notEmpty
  | .ok _ => .error .notDirectory

def rmdir (args : List String) : Tooling Nat := do
  let c ← choices 1
    [⟨"p", ["parents"], false⟩, ⟨"v", ["verbose"], false⟩,
     ⟨"ignore-fail-on-non-empty", ["ignore-fail-on-non-empty"], false⟩] args
  needOperand c "missing operand"
  let self ← read
  onEach c.operands fun name => do
    let names := if c.has "p" then (pathStages name).reverse else [name]
    let mut good := true
    for n in names do
      if good then
        if c.has "v" then say (self ++ ": removing directory, " ++ quoted n ++ "\n")
        match ← change (removeEmpty n) with
        | none => pure ()
        | some e =>
          if e = .notEmpty && c.has "ignore-fail-on-non-empty" then pure ()
          else do
            complain ((if n = name then "failed to remove " else "failed to remove directory ") ++ quoted n ++ ": " ++
              e.description)
            good := false
    return good

/-! ## Files -/

def touch (args : List String) : Tooling Nat := do
  let c ← choices 1
    [⟨"a", [], false⟩, ⟨"c", ["no-create"], false⟩, ⟨"m", [], false⟩, ⟨"h", ["no-dereference"], false⟩,
     ⟨"f", [], false⟩, ⟨"d", ["date"], true⟩, ⟨"t", [], true⟩, ⟨"r", ["reference"], true⟩] args
  needOperand c "missing file operand"
  onEach c.operands fun name => do
    match ← nodeOf .target name with
    | .ok _ => return true
    | .error found =>
      if c.has "c" then
        if found = .notFound then return true
        else do
          complain ("setting times of " ++ quoted name ++ ": " ++ found.description)
          return false
      else
        match ← change (·.touch (Process.pathOf name)) with
        | none => return true
        | some .isDirectory => do
          complain ("setting times of " ++ quoted name ++ ": " ++ found.description)
          return false
        | some e => do
          complain ("cannot touch " ++ quoted name ++ ": " ++ e.description)
          return false

/-- what is said of a tree that is taken away, the inner parts first -/
def removals (fuel : Nat) (name : String) (x : Node) : List String :=
  match fuel, x with
  | fuel + 1, .dir es =>
    (es.flatMap fun e => removals fuel (inside name (Octets.ofBytes e.1)) e.2) ++
      ["removed directory " ++ quoted name]
  | _, _ => ["removed " ++ quoted name]

def kindOf : Node → String
  | .file [] _ => "regular empty file"
  | .file _ _ => "regular file"
  | .dir _ => "directory"
  | .link _ => "symbolic link"

/-- asks on the input whether a file may be removed -/
def consents (x : Node) (name : String) : Tooling Bool := do
  let self ← read
  modify (·.complain (self ++ ": remove " ++ kindOf x ++ " " ++ quoted name ++ "? "))
  let p ← get
  let bytes := p.available 0
  set (p.leave 0 ((bytes.dropWhile (· ≠ 0x0A)).drop 1))
  return bytes.head? = some 0x79 || bytes.head? = some 0x59

def rm (args : List String) : Tooling Nat := do
  let c ← choices 1
    [⟨"f", ["force"], false⟩, ⟨"r", ["recursive"], false⟩, ⟨"R", [], false⟩, ⟨"d", ["dir"], false⟩,
     ⟨"v", ["verbose"], false⟩, ⟨"i", [], false⟩, ⟨"I", [], false⟩, ⟨"one-file-system", ["one-file-system"], false⟩,
     ⟨"no-preserve-root", ["no-preserve-root"], false⟩, ⟨"preserve-root", ["preserve-root"], false⟩] args
  let whole := c.has "r" || c.has "R"
  let asks := (c.given.reverse.find? fun o => o.1 = "i" || o.1 = "f").any (·.1 = "i")
  if c.operands.isEmpty then
    if c.has "f" then quit 0 else misuse 1 "missing operand"
  onEach c.operands fun name => do
    let refuse := fun (reason : String) => do
      complain ("cannot remove " ++ quoted name ++ ": " ++ reason)
      return false
    if whole && [".", ".."].contains (lastName name) then do
      complain ("refusing to remove '.' or '..' directory: skipping " ++ quoted name)
      return false
    else if whole && withoutSlashes name = "/" && !c.has "no-preserve-root" then do
      complain "it is dangerous to operate recursively on '/'"
      complain "use --no-preserve-root to override this failsafe"
      return false
    else
      match ← nodeOf .itself name with
      | .error e =>
        if c.has "f" && (e = .notFound || e = .notDirectory) then return true else refuse e.description
      | .ok x =>
        if x.isDir && !whole then
          if c.has "d" then attempt ("cannot remove " ++ quoted name) (removeEmpty name)
          else refuse "Is a directory"
        else do
          let agreed ← if asks then consents x name else pure true
          if !agreed then return true
          let path := Process.pathOf name
          let gone ← attempt ("cannot remove " ++ quoted name)
            (·.remove (if x.isDir then FileStore.dropSlashes path else path))
          if gone && c.has "v" then say (String.join ((removals 100 (withoutSlashes name) x).map (· ++ "\n")))
          return gone

def unlink (args : List String) : Tooling Nat := do
  match args with
  | [] => misuse 1 "missing operand"
  | [name] => do
    match ← nodeOf .itself name with
    | .ok (.dir _) => do
      complain ("cannot unlink " ++ quoted name ++ ": Is a directory")
      return 1
    | _ => return if ← attempt ("cannot unlink " ++ quoted name) (·.remove (Process.pathOf name)) then 0 else 1
  | _ :: x :: _ => misuse 1 ("extra operand " ++ literal x)

/-! ## Copies -/

/-- puts a copy at a location; directories that are there are kept, and a file keeps its mark of execution -/
def putCopy (fuel : Nat) (fs : FileStore) (loc : Location) (x : Node) : FileStore :=
  match fuel with
  | 0 => fs
  | fuel + 1 =>
    match x, fs.root.get? loc with
    | .dir es, some (.dir _) => es.foldl (fun fs e => putCopy fuel fs (loc ++ [e.1]) e.2) fs
    | .dir es, none => es.foldl (fun fs e => putCopy fuel fs (loc ++ [e.1]) e.2) (fs.put loc Node.empty)
    | .dir _, some _ => fs
    | .file content _, some (.file _ executable) => fs.put loc (.file content executable)
    | _, some (.dir _) => fs
    | x, _ => fs.put loc x

/-- one location lies within another -/
def isWithin (outer inner : Location) : Bool := inner.take outer.length = outer

/-- the sources and the target of a copy, with how the target is meant -/
structure Errand where
  sources : List String
  target : String
  intoTarget : Bool

/-- reads what is to be copied where -/
def errand (c : Choices) : Tooling Errand := do
  match c.value? "t" with
  | some dir => do
    needOperand c "missing file operand"
    if ← isDirectory dir then return ⟨c.operands, dir, true⟩
    else do
      match ← nodeOf .target dir with
      | .ok _ => complain ("target directory " ++ quoted dir ++ ": Not a directory")
      | .error e => complain ("target directory " ++ quoted dir ++ ": " ++ e.description)
      quit 1
  | none =>
    match c.operands.reverse with
    | [] => misuse 1 "missing file operand"
    | [one] => misuse 1 ("missing destination file operand after " ++ literal one)
    | target :: sources => do
      let isDir ← isDirectory target
      if c.has "T" then
        if sources.length > 1 then misuse 1 ("extra operand " ++ literal target)
        else return ⟨sources, target, false⟩
      else if sources.length > 1 && !isDir then do
        match ← nodeOf .target target with
        | .ok _ => complain ("target " ++ quoted target ++ ": Not a directory")
        | .error e => complain ("target " ++ quoted target ++ ": " ++ e.description)
        quit 1
      else return ⟨sources.reverse, target, isDir⟩

/-- copies one source to a name -/
def copyOne (c : Choices) (source target : String) : Tooling Bool := do
  let deep := c.has "r" || c.has "R" || c.has "a"
  let keepLinks := (deep || c.has "d" || c.has "P") && !c.has "L" && !c.has "H"
  let files := (← get).files
  let report := fun (message : String) => do
    complain message
    return false
  match files.node (if keepLinks then .itself else .target) (Process.pathOf source) with
  | .error e => report ("cannot stat " ++ quoted source ++ ": " ++ e.description)
  | .ok x =>
    if x.isDir && !deep then report ("-r not specified; omitting directory " ++ quoted source)
    else
      let origin := (files.lookup (if keepLinks then .itself else .target) (Process.pathOf source)).toOption
      let location := match origin with
        | some (.found loc _) => loc
        | _ => []
      let shown := fun (_ : Unit) => do
        if c.has "v" then say (quoted source ++ " -> " ++ quoted target ++ "\n")
        return true
      let store := fun (loc : Location) => do
        modify fun p => { p with files := putCopy 200 p.files loc x }
        shown ()
      match files.lookup .target (Process.pathOf target) with
      | .ok (.found loc there) =>
        if loc = location && !x.isDir then report (quoted source ++ " and " ++ quoted target ++ " are the same file")
        else if c.has "n" then return true
        else if x.isDir && isWithin location loc then
          report ("cannot copy a directory, " ++ quoted source ++ ", into itself, " ++ quoted target)
        else if x.isDir && !there.isDir then
          report ("cannot overwrite non-directory " ++ quoted target ++ " with directory " ++ quoted source)
        else if !x.isDir && there.isDir then
          report ("cannot overwrite directory " ++ quoted target ++ " with non-directory")
        else store loc
      | .ok (.vacant dir n) =>
        if x.isDir && isWithin location (dir ++ [n]) then
          report ("cannot copy a directory, " ++ quoted source ++ ", into itself, " ++ quoted target)
        else store (dir ++ [n])
      | .error e =>
        if x.isDir then
          match files.lookup .itself (FileStore.dropSlashes (Process.pathOf target)) with
          | .ok (.vacant dir n) => store (dir ++ [n])
          | _ => report ("cannot create directory " ++ quoted target ++ ": " ++ e.description)
        else
          let e := if target.endsWith "/" && e = .notFound &&
              (files.lookup .itself (FileStore.dropSlashes (Process.pathOf target))).isOk then Fault.notDirectory
            else e
          report ("cannot create regular file " ++ quoted target ++ ": " ++ e.description)

def copySwitches : List Switch :=
  [⟨"a", ["archive"], false⟩, ⟨"r", ["recursive"], false⟩, ⟨"R", [], false⟩, ⟨"f", ["force"], false⟩,
   ⟨"i", ["interactive"], false⟩, ⟨"n", ["no-clobber"], false⟩, ⟨"p", [], false⟩, ⟨"v", ["verbose"], false⟩,
   ⟨"d", [], false⟩, ⟨"P", ["no-dereference"], false⟩, ⟨"L", ["dereference"], false⟩, ⟨"H", [], false⟩,
   ⟨"u", [], false⟩, ⟨"x", [], false⟩, ⟨"T", ["no-target-directory"], false⟩, ⟨"t", ["target-directory"], true⟩,
   ⟨"preserve", ["preserve"], false⟩]

def cp (args : List String) : Tooling Nat := do
  let c ← choices 1 copySwitches args
  let e ← errand c
  onEach e.sources fun source =>
    copyOne c source (if e.intoTarget then inside e.target (lastName source) else e.target)

/-- copies files and marks them as executable, or makes directories -/
def install (args : List String) : Tooling Nat := do
  let c ← choices 1
    [⟨"d", ["directory"], false⟩, ⟨"D", [], false⟩, ⟨"m", ["mode"], true⟩, ⟨"v", [], false⟩, ⟨"p", [], false⟩,
     ⟨"o", [], true⟩, ⟨"g", [], true⟩, ⟨"t", ["target-directory"], true⟩, ⟨"T", [], false⟩, ⟨"c", [], false⟩] args
  if c.has "d" then do
    needOperand c "missing file operand"
    onEach c.operands (makeAll false)
  else do
    if c.has "D" then
      match c.operands.getLast? with
      | some target =>
        if (target.toList.splitOn '/').length > 1 then
          let _ ← makeAll false (String.ofList ((target.toList.reverse.dropWhile (· ≠ '/')).reverse.dropLast))
      | none => pure ()
    let e ← errand c
    let mark := !((c.value? "m").map fun m => m.toList.all fun d => "0246".contains d).getD false
    onEach e.sources fun source => do
      let target := if e.intoTarget then inside e.target (lastName source) else e.target
      let made ← copyOne { c with given := [] } source target
      if made && mark then
        let _ ← change (·.allowExecution (Process.pathOf target))
      return made

/-! ## Moves -/

/-- moves one source to a name -/
def moveOne (c : Choices) (source target : String) : Tooling Bool := do
  let files := (← get).files
  let report := fun (message : String) => do
    complain message
    return false
  match files.lookup .itself (Process.pathOf source) with
  | .error e => report ("cannot stat " ++ quoted source ++ ": " ++ e.description)
  | .ok (.vacant _ _) => report ("cannot stat " ++ quoted source ++ ": No such file or directory")
  | .ok (.found origin x) =>
    let store := fun (loc : Location) => do
      modify fun p =>
        let removed := { p.files with root := p.files.root.remove origin }
        { p with files := removed.put loc x }
      if c.has "v" then say ("renamed " ++ quoted source ++ " -> " ++ quoted target ++ "\n")
      return true
    let own := "cannot move " ++ quoted source ++ " to a subdirectory of itself, " ++ quoted target
    let targetPath := Process.pathOf target
    match files.lookup .itself (if x.isDir then FileStore.dropSlashes targetPath else targetPath) with
    | .ok (.found loc there) =>
      if loc = origin then report (quoted source ++ " and " ++ quoted target ++ " are the same file")
      else if c.has "n" then return true
      else if x.isDir && isWithin origin loc then report own
      else if x.isDir && !there.isDir then
        report ("cannot overwrite non-directory " ++ quoted target ++ " with directory " ++ quoted source)
      else if !x.isDir && there.isDir then
        report ("cannot overwrite directory " ++ quoted target ++ " with non-directory")
      else
        match there with
        | .dir (_ :: _) => report ("cannot overwrite " ++ quoted target ++ ": Directory not empty")
        | _ => store loc
    | .ok (.vacant dir n) => if x.isDir && isWithin origin (dir ++ [n]) then report own else store (dir ++ [n])
    | .error e =>
      let e := if target.endsWith "/" && e = .notFound && (files.lookup .itself (FileStore.dropSlashes targetPath)).isOk
        then Fault.notDirectory else e
      report ("cannot move " ++ quoted source ++ " to " ++ quoted target ++ ": " ++ e.description)

def mv (args : List String) : Tooling Nat := do
  let c ← choices 1
    [⟨"f", ["force"], false⟩, ⟨"i", ["interactive"], false⟩, ⟨"n", ["no-clobber"], false⟩, ⟨"v", ["verbose"], false⟩,
     ⟨"u", [], false⟩, ⟨"T", ["no-target-directory"], false⟩, ⟨"t", ["target-directory"], true⟩] args
  let e ← errand c
  onEach e.sources fun source =>
    moveOne c source (if e.intoTarget then inside e.target (lastName source) else e.target)

/-! ## Links -/

def ln (args : List String) : Tooling Nat := do
  let c ← choices 1
    [⟨"s", ["symbolic"], false⟩, ⟨"f", ["force"], false⟩, ⟨"n", ["no-dereference"], false⟩, ⟨"v", ["verbose"], false⟩,
     ⟨"T", ["no-target-directory"], false⟩, ⟨"t", ["target-directory"], true⟩, ⟨"i", [], false⟩, ⟨"r", [], false⟩,
     ⟨"P", [], false⟩, ⟨"L", [], false⟩] args
  needOperand c "missing file operand"
  let e ← match c.operands, c.value? "t" with
    | [one], none => pure (Errand.mk [one] "." true)
    | operands, none => do
      let target := operands.getLast?.getD ""
      let isLink := match ← nodeOf .itself target with
        | .ok (.link _) => true
        | _ => false
      if c.has "n" && isLink && operands.length = 2 then pure (Errand.mk operands.dropLast target false)
      else errand c
    | _, some _ => errand c
  onEach e.sources fun source => do
    let target := if e.intoTarget then (if e.target = "." then lastName source else inside e.target (lastName source))
      else e.target
    let kind := if c.has "s" then "symbolic link " else "hard link "
    let make : FileStore → Except Fault FileStore := fun fs => do
      let fs := if c.has "f" then
          match fs.node .itself (Process.pathOf target) with
          | .ok (.dir _) | .error _ => fs
          | .ok _ => (fs.remove (Process.pathOf target)).toOption.getD fs
        else fs
      if c.has "s" then fs.makeLink (Process.pathOf target) (Process.pathOf source)
      else
        match fs.lookup .itself (Process.pathOf target), fs.node .target (Process.pathOf source) with
        | .ok (.vacant dir n), .ok x => .ok (fs.put (dir ++ [n]) x)
        | .ok (.found _ _), _ => .error .exists
        | .error e, _ => .error e
        | _, .error e => .error e
    let made ← match c.has "s", ← nodeOf .itself source with
      | false, .error e => do
        complain ("failed to access " ++ quoted source ++ ": " ++ e.description)
        pure false
      | false, .ok (.dir _) => do
        complain (source ++ ": hard link not allowed for directory")
        pure false
      | _, _ => attempt ("failed to create " ++ kind ++ quoted target) make
    if made && c.has "v" then
      say (quoted target ++ (if c.has "s" then " -> " else " => ") ++ quoted source ++ "\n")
    return made

def readlink (args : List String) : Tooling Nat := do
  let c ← choices 1
    [⟨"f", ["canonicalize"], false⟩, ⟨"e", ["canonicalize-existing"], false⟩, ⟨"m", ["canonicalize-missing"], false⟩,
     ⟨"n", ["no-newline"], false⟩, ⟨"q", [], false⟩, ⟨"s", [], false⟩, ⟨"v", [], false⟩, ⟨"z", [], false⟩] args
  needOperand c "missing operand"
  let tail := if c.has "n" then "" else "\n"
  onEach c.operands fun name => do
    let files := (← get).files
    let present := fun (loc : Location) => do
      say (Process.nameOf ({ files with cwd := loc }).cwdPath ++ tail)
      return true
    if c.has "f" || c.has "e" || c.has "m" then
      match files.lookup .target (FileStore.dropSlashes (Process.pathOf name)) with
      | .ok (.found loc _) => present loc
      | .ok (.vacant dir n) => if c.has "e" then return false else present (dir ++ [n])
      | .error _ =>
        if c.has "m" then do
          say (Process.nameOf ((← get).fullPath name) ++ tail)
          return true
        else return false
    else
      match files.node .itself (Process.pathOf name) with
      | .ok (.link target) => do
        say (Process.nameOf target ++ tail)
        return true
      | _ => return false

def realpath (args : List String) : Tooling Nat := do
  let c ← choices 1
    [⟨"e", ["canonicalize-existing"], false⟩, ⟨"m", ["canonicalize-missing"], false⟩, ⟨"s", ["no-symlinks"], false⟩,
     ⟨"q", ["quiet"], false⟩, ⟨"z", [], false⟩, ⟨"L", [], false⟩, ⟨"P", [], false⟩] args
  needOperand c "missing operand"
  onEach c.operands fun name => do
    let files := (← get).files
    let print := fun (loc : Location) => do
      say (Process.nameOf ({ files with cwd := loc }).cwdPath ++ "\n")
      return true
    match files.lookup .target (FileStore.dropSlashes (Process.pathOf name)) with
    | .ok (.found loc _) => print loc
    | .ok (.vacant dir n) =>
      if c.has "e" then do
        nameFault name .notFound
        return false
      else print (dir ++ [n])
    | .error e =>
      if c.has "m" then do
        say (Process.nameOf ((← get).fullPath name) ++ "\n")
        return true
      else do
        nameFault name e
        return false

/-! ## Marks of whole trees -/

/-- marks a file, or with `deep` a whole tree -/
def markNode (mode : String) (deep : Bool) (fuel : Nat) (x : Node) : Node :=
  match fuel, x with
  | _, .file content executable => .file content ((applyMode mode false executable).getD executable)
  | fuel + 1, .dir es => if deep then .dir (es.map fun e => (e.1, markNode mode deep fuel e.2)) else x
  | _, _ => x

def chmod (args : List String) : Tooling Nat := do
  let isMode := fun (a : String) => a.startsWith "-" && a.length > 1 && (a.toList.drop 1).all fun c => "rwxXst".contains c
  let modeFirst := args.find? fun a => !a.startsWith "-" || isMode a
  let options := args.filter fun a => a.startsWith "-" && !isMode a
  let c ← choices 1
    [⟨"R", ["recursive"], false⟩, ⟨"f", ["silent", "quiet"], false⟩, ⟨"v", ["verbose"], false⟩,
     ⟨"c", ["changes"], false⟩] options
  match modeFirst with
  | none => misuse 1 "missing operand"
  | some mode =>
    let names := ((args.filter fun a => !a.startsWith "-" || isMode a).drop 1)
    if names.isEmpty then misuse 1 ("missing operand after " ++ literal mode)
    else if (applyMode mode false false).isNone then misuse 1 ("invalid mode: " ++ literal mode)
    else
      onEach names fun name => do
        let files := (← get).files
        match files.lookup .target (Process.pathOf name) with
        | .ok (.found loc x) => do
          modify fun p => { p with files := p.files.put loc (markNode mode (c.has "R") 200 x) }
          return true
        | .ok (.vacant _ _) => do
          complain ("cannot access " ++ quoted name ++ ": No such file or directory")
          return false
        | .error e => do
          complain ("cannot access " ++ quoted name ++ ": " ++ e.description)
          return false

/-! ## New names -/

/-- makes a file or directory with a name that nobody has -/
def mktemp (args : List String) : Tooling Nat := do
  let c ← choices 1
    [⟨"d", ["directory"], false⟩, ⟨"u", ["dry-run"], false⟩, ⟨"q", ["quiet"], false⟩, ⟨"p", ["tmpdir"], true⟩,
     ⟨"t", [], false⟩, ⟨"suffix", ["suffix"], true⟩] args
  let p ← get
  let template := c.operands.headD "tmp.XXXXXXXXXX"
  let marks := (template.toList.reverse.takeWhile (· = 'X')).length
  if marks < 3 then do
    complain ("too few X's in template " ++ literal template)
    quit 1
  let base := String.ofList (template.toList.take (template.length - marks))
  let dir := if c.operands.isEmpty || c.has "t" || c.has "p" then
      inside ((c.value? "p").getD ((p.environment.get? "TMPDIR").getD "/tmp")) "" else ""
  let number := toString (p.next * 7919 + p.clock)
  let digits := (List.replicate marks 'a' ++ number.toList).reverse.take marks
  let name := dir ++ base ++ String.ofList digits
  let what := if c.has "d" then "directory" else "file"
  if c.has "u" then do
    say (name ++ "\n")
    return 0
  else do
    modify fun p => { p with next := p.next + 1 }
    let made ← attempt ("failed to create " ++ what ++ " via template " ++ quoted (dir ++ template)) fun fs =>
      if c.has "d" then fs.makeDir (Process.pathOf name) else fs.touch (Process.pathOf name)
    if made then say (name ++ "\n")
    return if made then 0 else 1

end Benchwork.Shell.Tool
