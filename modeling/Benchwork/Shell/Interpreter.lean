/-
Running programs and shell scripts.

`run` runs a script, and `start` runs a tool as a process, a shell among them. A script in brackets, in a word, in the
background or on one side of a pipe works on a copy of the state. After every command a shell attends to the signals that
have come, and at its end to what was to be done then.

Everything takes fuel, which is the depth that scripts can reach; a program that runs out of it is ended by a signal.
-/
import Benchwork.Shell.Notice
import Benchwork.Shell.Opening
import Benchwork.Shell.Redirecting
import Benchwork.Shell.Starter
import Benchwork.Shell.Tool.Find

namespace Benchwork.Shell

open Benchwork.Text Running

/-- the time that a command of the shell takes, in millionths of a second -/
def commandTime : Nat := 20

/-- the time that it takes to start a program -/
def startTime : Nat := 1000

/-- how often a loop goes round -/
def roundLimit : Nat := 100000000

/-- how many functions can be within each other in a plain shell -/
def functionLimit : Nat := 1000

/-- without the line ends at the end, and without zero bytes -/
def withoutLineEnds (bytes : List UInt8) : String :=
  Octets.ofBytes ((bytes.filter (· ≠ 0)).reverse.dropWhile (· = 0x0A)).reverse

/-- the bytes that were gathered in a stream -/
def gatheredIn (p : Process) (slot : Nat) : List UInt8 :=
  match p.streams[slot]? with
  | some (.gathered bytes) => bytes
  | _ => []

/-- the state after a job that ended as the process `p` -/
def afterJob (s : State) (pid : Nat) (ending : Ending) (p : Process) : State :=
  { s with
    process := { s.process.after p with clock := max s.process.clock p.clock }
    jobs := s.jobs.map fun j => if j.pid = pid then { j with ending := some ending } else j }

/-- reads a text command by command and carries each one out; the flag says that it is the last -/
def feed (label : Option String) (text : List Char) (act : Script → Bool → Running Unit) (limit : Nat)
    (source : Reader.Source) : Running Unit :=
  match limit with
  | 0 => pure ()
  | limit + 1 => do
    let f ← frame
    let on := fun (switch : String) => f.switches.contains switch
    let aliases := if f.dialect = .plain || on "expand_aliases" then f.aliases else []
    match (Reader.complete (Reader.fuelFor text)).run { source with aliases, groups := on "extglob" } with
    | .error fault => do
      complainSyntax label text fault
      throw (.fault 2)
    | .ok (none, _) => pure ()
    | .ok (some script, source') => do
      modifyFrame ({ · with lineRead := source'.line })
      act script source'.rest.isEmpty
      feed label text act limit source'

/-- reads a text from its start; in the extended dialect every text ends with a line end -/
def feedText (label : Option String) (text : String) (act : Script → Bool → Running Unit) : Running Unit := do
  let f ← frame
  let cs := text.toList
  let cs := if f.dialect = .extended && cs.getLast? ≠ some '\n' then cs ++ ['\n'] else cs
  feed label cs act (cs.length + 1) { rest := cs, dialect := f.dialect }

/-- tells the shell that a child has ended, if it wants to know -/
def noteChild : Running Unit := do
  let f ← frame
  if f.traps.any fun t => t.1 = 17 && t.2 ≠ "" then
    modifyProcess fun p => { p with pending := p.pending ++ [(p.pid, 17)] }

/-- the commands of a script that only names a file to read -/
def fileOnly? : Script → Option Word
  | .simple _ [] [] [.file 0 .read w] => some w
  | _ => none

/-- the lists that are given to a declaring command -/
def declaredLists (words : List Word) : List Assignment :=
  words.filterMap fun
    | [.declared a] => some a
    | _ => none

/-- the entries of a menu, one on a line -/
def menu (items : List String) : String :=
  let width := (toString items.length).length
  String.join (items.zipIdx.map fun (item, i) =>
    let number := toString (i + 1)
    String.ofList (List.replicate (width - number.length) ' ') ++ number ++ ") " ++ item ++ "\n")

mutual

/-- what makes scripts in words work -/
def setting (fuel : Nat) : Expansion.Setting :=
  match fuel with
  | 0 => { output := fun _ => throw (.finish (.signal 11)), stream := fun _ => throw (.finish (.signal 11)) }
  | fuel + 1 => { output := fun script => do return withoutLineEnds (← outputOf fuel script), stream := streamOf fuel }

/-- the name of a new stream that holds what a script prints -/
def streamOf (fuel : Nat) (script : Script) : Running String :=
  match fuel with
  | 0 => throw (.finish (.signal 11))
  | fuel + 1 => do
    let before ← status
    let bytes ← outputOf fuel script
    let p ← process
    let number := ((List.range 64).reverse.find? fun n => (p.slot? n).isNone).getD 63
    modifyProcess (·.attach number (.source bytes))
    modifyFrame ({ · with outputStatus := none, status := before })
    return "/dev/fd/" ++ toString number

/-- what a script in a word prints -/
def outputOf (fuel : Nat) (script : Script) : Running (List UInt8) :=
  match fuel with
  | 0 => throw (.finish (.signal 11))
  | fuel + 1 => do
    match ← isPlain, fileOnly? script with
    | false, some w => do
      let name ← Expansion.singleOf (setting fuel) fuel w
      match (← process).readFile name with
      | .ok bytes => do
        modifyFrame ({ · with outputStatus := some 0, status := 0 })
        return bytes
      | .error e => do
        complain (name ++ ": " ++ e.description)
        modifyFrame ({ · with outputStatus := some 1, status := 1 })
        return []
    | _, _ => pure ()
    let slot := (← process).streams.size
    let ending ← apart do
      modifyProcess (·.attach 1 (.gathered []))
      modifyFrame fun f => { f with excused := false, traceDepth := f.traceDepth + (if f.dialect = .plain then 0 else 1) }
      if !(← isPlain) && !(← isOn "inherit_errexit") then turn "errexit" false
      concluding fuel (run fuel true script)
    let bytes := gatheredIn (← process) slot
    modifyProcess fun p => { p with streams := p.streams.setIfInBounds slot .nowhere }
    if ← isPlain then reportEnding ending
    noteChild
    modifyFrame ({ · with outputStatus := some ending.status, status := ending.status })
    return bytes

/-- attends to the signals that have come -/
def attend (fuel : Nat) : Running Unit :=
  match fuel with
  | 0 => throw (.finish (.signal 11))
  | fuel + 1 => do
    let p ← process
    let own := (p.pending.filter (·.1 = p.pid)).map (·.2)
    let due := ((p.strikes.takeWhile (·.time ≤ p.clock)).filter (·.reaches p.pid)).map (·.signal)
    if own.isEmpty && due.isEmpty then pure ()
    else do
      modifyProcess fun p =>
        { p with pending := p.pending.filter (·.1 ≠ p.pid), strikes := p.strikes.dropWhile (·.time ≤ p.clock) }
      for signal in own ++ due do
        let f ← frame
        match f.traps.find? (·.1 = signal) with
        | some (_, action) =>
          if Signal.isFinal signal then throw (.finish (.signal signal))
          else if action ≠ "" then do
            runText fuel none action
            modifyFrame ({ · with status := f.status })
        | none =>
          if (← process).ignored.contains signal && !Signal.isFinal signal then pure ()
          else if !Signal.isHarmless signal then throw (.finish (.signal signal))

/-- runs what is to be done at the end of a shell, and ends it -/
def concluding (fuel : Nat) (body : Running Unit) : Running Unit :=
  match fuel with
  | 0 => throw (.finish (.signal 11))
  | fuel + 1 => do
    let r ← outcome body
    let ending := endingOf r (← frame)
    let f : Frame ← frame
    let isDue : Bool := match ending with
      | .exit _ => true
      | .signal n => f.dialect = .extended && [1, 2, 15].contains n
    match f.traps.find? (·.1 = 0) with
    | some (_, action) =>
      if isDue then do
        modifyFrame fun f =>
          { f with
            traps := f.traps.filter (·.1 ≠ 0), status := ending.status, leaving := some ending.status
            functionDepth := 0, loopDepth := 0, excused := false, speaker := none }
        match ← outcome (runText fuel none action) with
        | .error (.finish e) => throw (.finish e)
        | .error (.fault n) => throw (.finish (.ofCode n))
        | _ => throw (.finish ending)
      else throw (.finish ending)
    | none => throw (.finish ending)

/-- runs the text of a script in the shell at hand -/
def runText (fuel : Nat) (label : Option String) (text : String) : Running Unit :=
  match fuel with
  | 0 => throw (.finish (.signal 11))
  | fuel + 1 => do
    let f : Frame ← frame
    ensuring (modifyFrame ({ · with line := f.line, lineRead := f.lineRead })) do
      feedText label text fun script _ => run fuel false script

/-- runs what is to be done on one of the occasions that are no signals -/
def runHook (fuel : Nat) (occasion : Nat) : Running Unit :=
  match fuel with
  | 0 => throw (.finish (.signal 11))
  | fuel + 1 => do
    let f : Frame ← frame
    match f.traps.find? (·.1 = occasion) with
    | some (_, action) =>
      if action ≠ "" then do
        modifyFrame ({ · with traps := f.traps.filter (·.1 ≠ occasion) })
        runText fuel none action
        modifyFrame fun g => { g with status := f.status, traps := g.traps ++ f.traps.filter (·.1 = occasion) }
    | none => pure ()

/-- a failure that nobody excuses is acted upon, and ends a strict shell -/
def checkFailure (fuel : Nat) : Running Unit :=
  match fuel with
  | 0 => throw (.finish (.signal 11))
  | fuel + 1 => do
    let f : Frame ← frame
    if f.status ≠ 0 && !f.excused then do
      if f.functionDepth = 0 || f.switches.contains "errtrace" then runHook fuel Signal.failure
      if f.switches.contains "errexit" then throw (.finish (.ofCode f.status))

/-- runs a script; its status is that of the last command. `tail` says that nothing follows in this process -/
def run (fuel : Nat) (tail : Bool) (script : Script) : Running Unit :=
  match fuel with
  | 0 => throw (.finish (.signal 11))
  | fuel + 1 => do
    if ← isOn "noexec" then pure ()
    else
    match script with
    | .skip => pure ()
    | .simple line assignments words redirections => do
      modifyFrame ({ · with line })
      if (← frame).functionDepth = 0 then runHook fuel Signal.everyCommand
      simple fuel tail assignments words redirections
      modifyFrame fun f => { f with pipeStatus := [f.status] }
      attend fuel
      checkFailure fuel
    | .seq first second => do
      run fuel false first
      run fuel tail second
    | .both first second => do
      excusing (run fuel false first)
      if (← status) = 0 then run fuel tail second
    | .either first second => do
      excusing (run fuel false first)
      if (← status) ≠ 0 then run fuel tail second
    | .negate body => do
      excusing (run fuel false body)
      setStatus (if (← status) = 0 then 1 else 0)
    | .pipe stages => do
      pipeline fuel stages
      attend fuel
      checkFailure fuel
    | .background body => do
      let s ← get
      let pid := s.process.next
      let p := ({ s.process.child s.process.environment with
        ignored := s.process.ignored, strikes := s.process.strikes.filter (·.receiver.isNone) }).attach 0 (.source [])
      let job : Job :=
        { pid, script := body, process := p
          frame := { s.frame with
            isCopy := true, copyDepth := s.frame.copyDepth + 1, loopDepth := 0, traps := s.frame.inheritedTraps
            excused := false } }
      set { s with
        process := { s.process with next := pid + 1, streams := p.streams }, jobs := s.jobs ++ [job]
        frame := { s.frame with lastJob := some pid, status := 0 } }
    | .branch condition yes no => do
      excusing (run fuel false condition)
      if (← status) = 0 then run fuel tail yes
      else
        match no with
        | .skip => setStatus 0
        | no => run fuel tail no
    | .loop negated condition body =>
      rounds roundLimit 0 fun last => do
        excusing (run fuel false condition)
        if decide ((← status) = 0) ≠ negated then run fuel false body
        else do
          setStatus last
          throw (.leaveLoop 1)
    | .select line name values body => do
      modifyFrame ({ · with line })
      let items ← match values with
        | some ws => Expansion.fieldsOfAll (setting fuel) fuel ws
        | none => do pure (← frame).args
      traceHead fun _ => "select " ++ name ++ (match values with
        | some ws => " in " ++ " ".intercalate (ws.map (wordSource false))
        | none => "")
      modifyProcess (·.complain (menu items))
      rounds roundLimit 0 fun _ => do
        let sign := (← parameter? "PS3").getD "#? "
        modifyProcess (·.complain sign)
        let (line, left, whole) := OwnCommand.readLine true 0x0A ((← process).available 0).length.succ ((← process).available 0)
        if !whole && line.isEmpty then do
          say "\n"
          setStatus 1
          throw (.leaveLoop 1)
        modifyProcess (·.leave 0 left)
        let reply := plainText line
        assign "REPLY" reply
        if reply = "" then modifyProcess (·.complain (menu items))
        else do
          assign name (((Number.digits? reply.toList).bind fun n => if n = 0 then none else items[n - 1]?).getD "")
          run fuel false body
    | .each line name values body => do
      modifyFrame ({ · with line })
      if !OwnCommand.isName name then do
        complain (OwnCommand.tick ++ name ++ "': not a valid identifier")
        throw (.fault 1)
      let items ← match values with
        | some ws => Expansion.fieldsOfAll (setting fuel) fuel ws
        | none => do pure (← frame).args
      setStatus 0
      let head := fun (_ : Unit) => "for " ++ name ++ (match values with
        | some ws => " in " ++ " ".intercalate (ws.map (wordSource false))
        | none => " in \"$@\"")
      roundEach items fun v => do
        traceHead head
        assign name v
        run fuel false body
    | .count start condition step body => do
      let work := fun (w : Word) => do
        traceHead fun _ => "(( " ++ Reader.textOf w ++ " ))"
        Expansion.calculate (← Expansion.textOf (setting fuel) fuel w)
      if !start.isEmpty then
        let _ ← work start
      setStatus 0
      rounds roundLimit 0 fun last => do
        let holds ← if condition.isEmpty then pure 1 else work condition
        if holds = 0 then do
          setStatus last
          throw (.leaveLoop 1)
        else
          match ← outcome (run fuel false body) with
          | .error (.nextRound n) =>
            if n ≤ 1 then
              if !step.isEmpty then
                let _ ← work step
            else throw (.nextRound n)
          | .error j => throw j
          | .ok () =>
            if !step.isEmpty then
              let _ ← work step
    | .choose line subject arms => do
      modifyFrame ({ · with line })
      traceHead fun _ => "case " ++ wordSource false subject ++ " in"
      let value ← Expansion.singleOf (setting fuel) fuel subject
      choose fuel tail value.toList false arms
    | .define name body => do
      modifyFrame fun f =>
        { f with functions := (name, body) :: f.functions.filter (·.1 ≠ name), status := 0 }
    | .redirect line body redirections => do
      modifyFrame ({ · with line })
      keepingStreams do
        if ← Redirecting.redirectAll (setting fuel) fuel redirections then run fuel false body
        else setStatus (if ← isPlain then 2 else 1)
      checkFailure fuel
    | .separate line body => do
      modifyFrame ({ · with line })
      let ending ← apart (concluding fuel (run fuel true body))
      reportEnding ending
      setStatus ending.status
      modifyFrame fun f => { f with pipeStatus := [f.status] }
      noteChild
      attend fuel
      checkFailure fuel
    | .judge line condition => do
      modifyFrame ({ · with line })
      setStatus (if ← judge fuel condition then 0 else 1)
      checkFailure fuel
    | .calculate line expression => do
      modifyFrame ({ · with line })
      traceHead fun _ => "(( " ++ Reader.textOf expression ++ " ))"
      match ← outcome (do Expansion.calculate (← Expansion.textOf (setting fuel) fuel expression)) with
      | .ok n => setStatus (if n = 0 then 1 else 0)
      | .error (.fault n) => setStatus n
      | .error j => throw j
      checkFailure fuel

/-- settles a condition in double brackets -/
def judge (fuel : Nat) (condition : Judgement) : Running Bool :=
  match fuel with
  | 0 => throw (.finish (.signal 11))
  | fuel + 1 => do
    match condition with
    | .word w => do
      let x ← Expansion.singleOf (setting fuel) fuel w
      traceHead fun _ => "[[ -n " ++ x ++ " ]]"
      return x ≠ ""
    | .negate j => return !(← judge fuel j)
    | .both a b => do
      if ← judge fuel a then judge fuel b else return false
    | .either a b => do
      if ← judge fuel a then return true else judge fuel b
    | .unary op w => do
      let x ← Expansion.singleOf (setting fuel) fuel w
      traceHead fun _ => "[[ " ++ op ++ " " ++ x ++ " ]]"
      let s ← get
      return Condition.unaryOf s.process (OwnCommand.scopeOf s) op x
    | .binary a op b => do
      let x ← Expansion.singleOf (setting fuel) fuel a
      if ← isOn "xtrace" then
        let y ← Expansion.singleOf (setting fuel) fuel b
        traceHead fun _ => "[[ " ++ x ++ " " ++ op ++ " " ++ y ++ " ]]"
      match op with
      | "=" | "==" => return Pattern.matchesAll (← Expansion.patternOf (setting fuel) fuel b) x.toList
      | "!=" => return !Pattern.matchesAll (← Expansion.patternOf (setting fuel) fuel b) x.toList
      | "=~" => do
        let source ← Expansion.symbolsOf (setting fuel) fuel b
        let special := ".[]()*+?\x7b\x7d|^$\\".toList
        let text := source.flatMap fun c => if c.quoted && special.contains c.char then ['\\', c.char] else [c.char]
        match Regex.parse .extended text with
        | none => throw (.fault 2)
        | some r =>
          match Regex.search false r x.toList with
          | none => return false
          | some (start, stop, caps) => do
            let cs := x.toList.toArray
            let groups := (List.range 10).filterMap fun i =>
              if i = 0 then some (0, String.ofList (cs.extract start stop).toList)
              else (caps.find? (·.1 = i)).map fun c => (i, String.ofList (cs.extract c.2.1 c.2.2).toList)
            assignValue "BASH_REMATCH" (.list groups)
            return true
      | op => do
        let y ← Expansion.singleOf (setting fuel) fuel b
        match Condition.compareNumbers? op with
        | some holds => return holds (← Expansion.calculate x) (← Expansion.calculate y)
        | none => return (Condition.binaryText (← process) false x op y).getD false

/-- runs the first arm that fits; `taken` says that an arm before has passed on to this body -/
def choose (fuel : Nat) (tail : Bool) (value : List Char) (taken : Bool) (arms : List Arm) : Running Unit :=
  match fuel with
  | 0 => throw (.finish (.signal 11))
  | fuel + 1 => do
    match arms with
    | [] => if !taken then setStatus 0
    | .mk patterns body ending :: rest => do
      let fits ← if taken then pure true else fitsOne fuel value patterns
      if fits then do
        match body with
        | .skip => setStatus 0
        | body => run fuel tail body
        match ending with
        | .done => pure ()
        | .nextBody => choose fuel tail value true rest
        | .nextTest => do
          let before ← status
          choose fuel tail value false rest
          if rest.isEmpty then setStatus before
      else choose fuel tail value false rest

/-- some pattern fits a text; those after it are not looked at -/
def fitsOne (fuel : Nat) (value : List Char) (patterns : List Word) : Running Bool :=
  match fuel with
  | 0 => throw (.finish (.signal 11))
  | fuel + 1 => do
    match patterns with
    | [] => return false
    | w :: rest => do
      let marks ← Expansion.patternOf (setting fuel) fuel w
      if Pattern.matchesAll marks value then return true else fitsOne fuel value rest

/-- runs stages, each of which reads what the one before has printed -/
def pipeline (fuel : Nat) (stages : List Script) : Running Unit :=
  match fuel with
  | 0 => throw (.finish (.signal 11))
  | fuel + 1 => do
    let begin := (← process).clock
    let plain ← isPlain
    let stays := !plain && (← isOn "lastpipe")
    let mut input : Option (List UInt8) := none
    let mut latest := begin
    let mut worst := 0
    let mut last : Ending := .exit 0
    let mut statuses : List Nat := []
    for (stage, i) in stages.zipIdx do
      let isLast := i + 1 = stages.length
      let before := input
      modifyProcess ({ · with clock := begin })
      let slot := (← process).streams.size + (if before.isSome then 1 else 0)
      let connect : Running Unit := match before with
        | some bytes => modifyProcess (·.attach 0 (.source bytes))
        | none => pure ()
      let ending ← if isLast && stays then do
          keepingStreams do
            connect
            run fuel false stage
          pure (Ending.ofCode (← status))
        else apart do
          connect
          if !isLast then modifyProcess (·.attach 1 (.gathered []))
          concluding fuel (run fuel true stage)
      if plain || isLast then reportEnding ending
      let p ← process
      latest := max latest p.clock
      if !isLast then
        input := some (gatheredIn p slot)
        modifyProcess fun p => { p with streams := p.streams.setIfInBounds slot .nowhere }
      if ending.status ≠ 0 then worst := ending.status
      statuses := statuses ++ [ending.status]
      last := ending
    let final := latest
    modifyProcess ({ · with clock := final })
    let code := if ← isOn "pipefail" then worst else last.status
    let all := statuses
    modifyFrame ({ · with status := code, pipeStatus := all })
    noteChild

/-- runs a simple command -/
def simple (fuel : Nat) (tail : Bool) (assignments : List Assignment) (words : List Word)
    (redirections : List Redirection) : Running Unit :=
  match fuel with
  | 0 => throw (.finish (.signal 11))
  | fuel + 1 => do
    modifyProcess fun p => { p with clock := p.clock + commandTime }
    modifyFrame ({ · with outputStatus := none })
    let numbers := (← process).numbers
    let fields ← Expansion.fieldsOfAll (setting fuel) fuel words
    let f : Frame ← frame
    let plain := f.dialect = .plain
    match fields with
    | [] =>
      keepingStreams do
        if ← Redirecting.redirectAll (setting fuel) fuel redirections then do
          let values ← assignments.mapM fun a => do return (a, (← Redirecting.assignOne (setting fuel) fuel a).2)
          traceCommand values []
          setStatus ((← frame).outputStatus.getD 0)
        else setStatus (if plain then 2 else 1)
    | name :: args => do
      let isFunction := f.functions.any (·.1 = name) && !(plain && OwnCommand.isSpecial name)
      let isOwn := !isFunction && (OwnCommand.names f.dialect).contains name
      let isSpecial := isOwn && plain && OwnCommand.isSpecial name
      let keeps := isOwn && name = "exec" && args.isEmpty
      let declared := declaredLists words
      let isFixing := name = "readonly" || args.any fun a => a.startsWith "-" && a.contains 'r' && !a.contains 'A'
      let opened ← Redirecting.redirectAll (setting fuel) fuel redirections
      let restore := if keeps then pure () else modifyProcess ({ · with numbers })
      if !opened then do
        modifyProcess ({ · with numbers })
        if isSpecial then throw (.fault 2) else setStatus (if plain then 2 else 1)
      else
        ensuring restore do
          let before ← assignments.mapM fun a => do
            let key := assignedName a
            return (key, ← lookup? key)
          let values ← assignments.mapM fun a => do return (a, (← Redirecting.assignOne (setting fuel) fuel a).2)
          traceCommand values fields
          let putBack := do
            for (key, v) in before.reverse do
              match v with
              | some v => putVariable key v
              | none => dropVariable key
          let expose := do
            for (key, _) in before do
              match ← lookup? key with
              | some v => putVariable key { v with isExported := true }
              | none => pure ()
          if isFixing then
            for a in declared do
              let _ ← Redirecting.assignOne (setting fuel) fuel a
          if assignments.isEmpty then command fuel tail true name args
          else if isSpecial then do
            if name = "exec" then expose
            command fuel tail true name args
          else do
            expose
            ensuring putBack (command fuel false true name args)
          if !isFixing then
            for a in declared do
              let _ ← Redirecting.assignOne (setting fuel) fuel a

/-- carries out a command by its name; `functions` says whether functions count -/
def command (fuel : Nat) (tail functions : Bool) (name : String) (args : List String) : Running Unit :=
  match fuel with
  | 0 => throw (.finish (.signal 11))
  | fuel + 1 => do
    let f : Frame ← frame
    let plain := f.dialect = .plain
    let function := if functions && !(plain && OwnCommand.isSpecial name) then f.functions.find? (·.1 = name) else none
    match function with
    | some (_, body) => callFunction fuel name body args
    | none =>
      match OwnCommand.find? f.dialect name with
      | some own => ownCommand fuel functions name (own args)
      | none =>
        match name with
        | "eval" =>
          if plain then speaking (some "eval") (evaluate fuel args)
          else do
            modifyFrame fun f => { f with traceDepth := f.traceDepth + 1 }
            ensuring (modifyFrame fun f => { f with traceDepth := f.traceDepth - 1 }) (evaluate fuel args)
        | "." => sourcing fuel functions args
        | "exec" => ownCommand fuel functions name (replace fuel args)
        | "wait" => ownCommand fuel functions name (waitFor fuel args)
        | "command" =>
          match args with
          | [] => setStatus 0
          | "-v" :: rest => do setStatus (← speaking (some name) (OwnCommand.locate rest))
          | "-V" :: rest => do setStatus (← speaking (some name) (OwnCommand.describe rest))
          | "-p" :: program :: rest | "--" :: program :: rest => command fuel tail false program rest
          | program :: rest =>
            match program.toList with
            | '-' :: c :: _ => do
              let text := String.ofList ['-', c]
              ownCommand fuel functions name (OwnCommand.refuse ("Illegal option " ++ text) (text ++ ": invalid option") 2)
              if !plain then modifyProcess (·.complain "command: usage: command [-pVv] command [arg ...]\n")
            | _ => command fuel tail false program rest
        | _ =>
          if f.dialect = .extended && name = "source" then sourcing fuel functions args
          else if f.dialect = .extended && name = "builtin" then
            match args with
            | program :: rest => command fuel tail false program rest
            | [] => setStatus 0
          else do
            let ending ← program fuel name args
            -- the last program of a process takes its place
            if tail && (f.isCopy || (!plain && f.isInline)) && f.traps.all (·.2 = "") then throw (.finish ending)
            reportEnding ending
            noteChild
            setStatus ending.status

/-- runs a command of the shell itself; `strict` says that the fault of a special one ends the plain shell -/
def ownCommand (fuel : Nat) (strict : Bool) (name : String) (body : Running Nat) : Running Unit :=
  match fuel with
  | 0 => throw (.finish (.signal 11))
  | _ + 1 => do
    let plain ← isPlain
    match ← outcome (speaking (some name) body) with
    | .ok code => setStatus code
    | .error (.fault code) =>
      if plain && strict && OwnCommand.isSpecial name then throw (.fault code) else setStatus code
    | .error j => throw j

/-- runs arguments as a script -/
def evaluate (fuel : Nat) (args : List String) : Running Unit :=
  match fuel with
  | 0 => throw (.finish (.signal 11))
  | fuel + 1 => do
    let text := " ".intercalate args
    if text.toList.all fun c => c = ' ' || c = '\t' || c = '\n' then setStatus 0
    else
      match ← outcome (runText fuel (some "eval") text) with
      | .error (.fault n) => if ← isPlain then throw (.fault n) else setStatus n
      | .error j => throw j
      | .ok () => pure ()

/-- runs a file as part of the script; `strict` says that a fault ends the plain shell -/
def sourcing (fuel : Nat) (strict : Bool) (args : List String) : Running Unit :=
  match fuel with
  | 0 => throw (.finish (.signal 11))
  | fuel + 1 => do
    match ← outcome (source fuel args) with
    | .error (.fault n) => if strict then throw (.fault n) else setStatus n
    | .error j => throw j
    | .ok () => pure ()

def source (fuel : Nat) (args : List String) : Running Unit :=
  match fuel with
  | 0 => throw (.finish (.signal 11))
  | fuel + 1 => do
    let s ← get
    let plain := s.frame.dialect = .plain
    match args with
    | [] =>
      if plain then setStatus 0
      else do
        speaking (some ".") (complain "filename argument required")
        modifyProcess (·.complain ".: usage: . filename [arguments]\n")
        setStatus 2
    | name :: own =>
      let isFile := fun (n : String) =>
        match s.process.files.node .target (Process.pathOf n) with
        | .ok (.file _ _) => true
        | _ => false
      let found := if name.contains '/' then some name
        else
          match (Image.candidates ((s.parameter? "PATH").getD "") name).find? isFile with
          | some path => some path
          | none => if !plain && s.process.files.pathExists (Process.pathOf name) then some name else none
      match found.map fun path => (path, s.process.files.read (Process.pathOf path)) with
      | none =>
        if plain then speaking (some ".") (fail (name ++ ": not found"))
        else do
          complain (name ++ ": No such file or directory")
          setStatus 1
      | some (path, .error e) =>
        if e = .isDirectory && plain then setStatus 0
        else if e = .isDirectory then do
          speaking (some ".") (complain (path ++ ": is a directory"))
          setStatus 1
        else if plain then
          speaking (some ".") do
            Redirecting.complainOpen false path e
            throw (.fault 2)
        else do
          complain (path ++ ": " ++ e.description)
          setStatus 1
      | some (path, .ok bytes) => do
        let f := s.frame
        if !own.isEmpty && !plain then modifyFrame ({ · with args := own })
        modifyFrame fun g => { g with sourceDepth := g.sourceDepth + 1, sources := path :: g.sources, status := 0 }
        let restore := modifyFrame fun g =>
          { g with
            sourceDepth := f.sourceDepth, sources := f.sources
            args := if own.isEmpty || plain then g.args else f.args, speakerName := f.speakerName }
        if !plain then modifyFrame ({ · with speakerName := some path })
        ensuring restore (speaking (if plain then some path else none) do
          match ← outcome (runText fuel none (Octets.ofBytes bytes)) with
          | .error .back => pure ()
          | .error (.fault n) => if plain then throw (.fault n) else setStatus n
          | .error j => throw j
          | .ok () => pure ())

/-- puts a program in the place of the shell -/
def replace (fuel : Nat) (args : List String) : Running Nat :=
  match fuel with
  | 0 => throw (.finish (.signal 11))
  | fuel + 1 => do
    match args with
    | [] => return 0
    | "-c" :: more =>
      if ← isPlain then replaceBy fuel none args
      else do
        modifyFrame fun f => { f with bindings := f.bindings.map fun v => (v.1, { v.2 with isExported := false }) }
        replaceBy fuel none more
    | "-l" :: more => if ← isPlain then replaceBy fuel none args else replaceBy fuel none more
    | "-a" :: shown :: more => if ← isPlain then replaceBy fuel none args else replaceBy fuel (some shown) more
    | "--" :: more => replaceBy fuel none more
    | _ => replaceBy fuel none args

/-- puts a program in the place of the shell, perhaps under another name -/
def replaceBy (fuel : Nat) (shown : Option String) (args : List String) : Running Nat :=
  match fuel with
  | 0 => throw (.finish (.signal 11))
  | fuel + 1 => do
    match args with
    | [] => return 0
    | name :: rest => do
      let s ← get
      let env ← exported
      match found s env name rest with
      | .ok (inv, env) => do
        let inv := { inv with name := shown.getD inv.name }
        let (ending, p) := start fuel inv { s.process with environment := env, clock := s.process.clock + startTime }
        set { s with process := s.process.after p, frame := { s.frame with traps := [] } }
        throw (.finish ending)
      | .error e => do
        let isMissing := e = .notFound || e = .notDirectory
        let code ← if s.frame.dialect = .plain then complainProgram name e
          else if name.contains '/' && isMissing then speaking none (complainProgram name e)
          else if !isMissing then do
            let full := OwnCommand.tidy (Process.nameOf (s.process.fullPath name))
            speaking none (complain (full ++ ": " ++ e.description))
            complain (full ++ ": cannot execute: " ++ e.description)
            pure 126
          else do
            complain (name ++ ": not found")
            pure 127
        throw (.finish (.exit code))

/-- starts a program and waits for its end -/
def program (fuel : Nat) (name : String) (args : List String) : Running Ending :=
  match fuel with
  | 0 => throw (.finish (.signal 11))
  | fuel + 1 => do
    let s ← get
    let env ← exported
    match found s env name args with
    | .ok (inv, env) => do
      let child := { s.untrapped.child env with clock := s.process.clock + startTime }
      let (ending, p) := start fuel inv child
      set { s with process := s.process.after p }
      settleJobs fuel
      return ending
    | .error e => return .exit (← complainProgram name e)

/-- calls a function -/
def callFunction (fuel : Nat) (name : String) (body : Script) (args : List String) : Running Unit :=
  match fuel with
  | 0 => throw (.finish (.signal 11))
  | fuel + 1 => do
    let f : Frame ← frame
    if f.dialect = .plain && f.functionDepth ≥ functionLimit then
      fail ("Maximum function recursion depth (" ++ toString functionLimit ++ ") reached")
    modifyFrame fun f =>
      { f with
        args, functionDepth := f.functionDepth + 1, calls := name :: f.calls, loopDepth := 0, hidden := [] :: f.hidden }
    let restore := do
      let g ← frame
      for (name, v) in g.hidden.headD [] do
        match v with
        | some v => putVariable name v
        | none => dropVariable name
      modifyFrame fun g =>
        { g with
          args := f.args, functionDepth := f.functionDepth, calls := f.calls, loopDepth := f.loopDepth
          hidden := g.hidden.tail }
    ensuring restore do
      match ← outcome (run fuel false body) with
      | .error .back => pure ()
      | .error j => throw j
      | .ok () => pure ()

/-- runs a job, beginning with the files and streams of `p`, and not beyond the time `stop` if there is one; gives its end
and its process -/
def runJob (fuel : Nat) (j : Job) (stop : Option Nat) (p : Process) : Ending × Process :=
  match fuel with
  | 0 => (.signal 11, p)
  | fuel + 1 =>
    let halt := stop.toList.map fun time => { time := time + 1, signal := 9 }
    let own := { j.process.after p with
      files := { p.files with cwd := j.process.files.cwd }, clock := j.process.clock, next := p.next
      strikes := Strike.ordered (j.process.strikes ++ halt) }
    let (r, s) := (concluding fuel (do attend fuel; run fuel true j.script)).run { process := own, frame := j.frame }
    (endingOf r s.frame, s.process)

/-- finishes the jobs that would have ended by now -/
def settleJobs (fuel : Nat) : Running Unit :=
  match fuel with
  | 0 => throw (.finish (.signal 11))
  | fuel + 1 => do
    for j in (← get).jobs do
      if j.ending.isNone then
        let s ← get
        let (ending, p) := runJob fuel j (some s.process.clock) s.process
        if p.clock ≤ s.process.clock then
          set (afterJob s j.pid ending p)
          noteChild

/-- waits for jobs, those first that end first -/
def finishJobs (fuel : Nat) (wanted : Job → Bool) : Running Unit :=
  match fuel with
  | 0 => throw (.finish (.signal 11))
  | fuel + 1 => do
    let s ← get
    let unfinished := (s.jobs.filter fun j => j.ending.isNone && wanted j)
    let timed := unfinished.map fun j => ((runJob fuel j none s.process).2.clock, j)
    for (_, j) in timed.mergeSort fun (a b : Nat × Job) => decide (a.1 ≤ b.1) do
      let s ← get
      let (ending, p) := runJob fuel j none s.process
      set (afterJob s j.pid ending p)
      noteChild

/-- waits for jobs; gives the status of the last one asked for -/
def waitFor (fuel : Nat) (args : List String) : Running Nat :=
  match fuel with
  | 0 => throw (.finish (.signal 11))
  | fuel + 1 => do
    let plain ← isPlain
    let next := !plain && args.contains "-n"
    let args := args.filter fun a => a ≠ "-n" && a ≠ "-f" && a ≠ "--"
    if next && args.isEmpty then do
      let unfinished := (← get).jobs.filter (·.ending.isNone)
      match unfinished with
      | [] => return 127
      | _ => do
        let before := (← get).jobs
        finishJobs fuel fun _ => true
        let ended := (← get).jobs.find? fun j => before.any fun k => k.pid = j.pid && k.ending.isNone
        attend fuel
        return ((ended.bind (·.ending)).map Ending.status).getD 0
    else if args.isEmpty then do
      finishJobs fuel fun _ => true
      attend fuel
      return 0
    else do
      let mut code := 0
      for a in args do
        let s ← get
        let pid := if a.startsWith "%" then s.frame.lastJob else a.toNat?
        match s.jobs.find? fun j => some j.pid = pid with
        | none => do
          if !(← isPlain) then
            if pid.isSome then complain ("pid " ++ a ++ " is not a child of this shell")
            else complain (OwnCommand.tick ++ a ++ "': not a pid or valid job spec")
          else if pid.isNone then
            fail (if a.startsWith "%" then "No such job: " ++ a else "Illegal number: " ++ a)
          code := if pid.isSome || (← isPlain) then 127 else 1
        | some j => do
          finishJobs fuel fun k => k.pid = j.pid
          match ((← get).jobs.find? fun k => k.pid = j.pid).bind (·.ending) with
          | some ending => do
            if ← isPlain then reportEnding ending
            code := ending.status
          | none => code := 127
      attend fuel
      return code

/-- runs a tool as a process -/
def start (fuel : Nat) (inv : Invocation) (p : Process) : Ending × Process :=
  match fuel with
  | 0 => (.signal 11, p)
  | fuel + 1 =>
    let complain := fun (message : String) (p : Process) => p.complain (inv.name ++ ": " ++ message ++ "\n")
    let misuse := fun (code : Nat) (message : String) (p : Process) =>
      (Ending.exit code, (complain message p).complain ("Try '" ++ inv.name ++ " --help' for more information.\n"))
    let launch := fun (p : Process) (env : Environment) (command : List String) (onFault : Fault → Ending × Process) =>
      match command with
      | [] => (Ending.exit 0, p)
      | program :: args =>
        match Image.locate p.files env program args with
        | .ok next => start fuel next { p with environment := env }
        | .error e => onFault e
    let codeOf := fun (e : Fault) => if e = .notFound || e = .notDirectory then 127 else 126
    match inv.tool with
    | "sh" | "dash" => shell fuel .plain inv p
    | "bash" | "rbash" => shell fuel .extended inv p
    | "env" =>
      match Starter.envOrder (10 * inv.args.length + 100) { environment := p.environment } inv.args with
      | .error message => misuse 125 message p
      | .ok o =>
        let moved := match o.directory with
          | some dir => (p.enter (Process.pathOf dir)).mapError fun e => (dir, e)
          | none => .ok p
        match moved with
        | .error (dir, e) =>
          (.exit 125, complain ("cannot change directory to " ++ Tooling.quoted dir ++ ": " ++ e.description) p)
        | .ok p =>
          match o.command with
          | [] => (.exit 0, p.say (String.join (o.environment.map fun e => e.1 ++ "=" ++ e.2 ++ "\n")))
          | program :: _ =>
            launch p o.environment o.command fun e =>
              let p := complain (Tooling.literal program ++ ": " ++ e.description) p
              (.exit (codeOf e), if program.contains ' ' && codeOf e = 127 then
                complain "use -[v]S to pass options in shebang lines" p else p)
    | "timeout" =>
      match Starter.timeoutOrder inv.args with
      | .error (some message) => misuse 125 message p
      | .error none => (.exit 125, p.complain ("Try '" ++ inv.name ++ " --help' for more information.\n"))
      | .ok o =>
        let limit := p.clock + o.duration
        let strikes : List Strike := if o.duration = 0 then [] else
          { time := limit, signal := o.signal } :: (match o.killAfter with
            | some n => [{ time := limit + n, signal := 9 }]
            | none => [])
        let child := p.child p.environment
        let child := { child with strikes := Strike.ordered (child.strikes ++ strikes) }
        let (ending, q) := launch child p.environment o.command fun e =>
          (.exit (codeOf e), complain ("failed to run command " ++ Tooling.literal (o.command.headD "") ++ ": " ++ e.description) child)
        let late := o.duration ≠ 0 && q.clock ≥ limit
        let result := match ending with
          | .exit code => if late && !o.keepStatus then Ending.exit 124 else .exit code
          | .signal n =>
            if !late then .signal n
            else if n = 9 then (if o.signal = 9 then .signal 9 else .exit 137)
            else .exit (if o.keepStatus then 128 + n else 124)
        let p' := p.after q
        (result, { p' with strikes := p.strikes })
    | "nice" =>
      let args := match inv.args with
        | "-n" :: _ :: rest => rest
        | a :: rest => if a.startsWith "-" then rest else a :: rest
        | [] => []
      launch p p.environment args fun e =>
        (.exit (codeOf e), complain (Tooling.literal (args.headD "") ++ ": " ++ e.description) p)
    | "nohup" =>
      match inv.args with
      | [] => misuse 125 "missing operand" p
      | args =>
        launch { p with ignored := 1 :: p.ignored } p.environment args fun e =>
          (.exit (codeOf e), complain ("failed to run command " ++ Tooling.literal (args.headD "") ++ ": " ++ e.description) p)
    | "setsid" | "stdbuf" =>
      let args := inv.args.dropWhile (·.startsWith "-")
      launch p p.environment args fun e =>
        (.exit (codeOf e), complain ("failed to execute " ++ args.headD "" ++ ": " ++ e.description) p)
    | "xargs" =>
      match Starter.xargsOrder inv.args with
      | .error message => misuse 1 message p
      | .ok o =>
        let (supply, p) := match o.file with
          | some name => (p.readFile name, p)
          | none => let (bytes, p) := p.readInput; (.ok bytes, p)
        let step := fun (acc : Nat × Bool × Process) (cmd : List String) =>
          let (code, stopped, p) := acc
          if stopped then acc
          else
            let p := if o.isTraced then p.complain (" ".intercalate cmd ++ "\n") else p
            match Image.locate p.files p.environment (cmd.headD "") (cmd.drop 1) with
            | .error e => (codeOf e, true, complain (cmd.headD "" ++ ": " ++ e.description) p)
            | .ok next =>
              let (ending, q) := start fuel next (p.child p.environment)
              let p := p.after q
              match ending with
              | .exit 0 => (code, false, p)
              | .exit 255 => (124, true, complain (cmd.headD "" ++ ": exited with status 255; aborting") p)
              | .exit _ => (123, false, p)
              | .signal n => (125, true, complain (cmd.headD "" ++ ": terminated by signal " ++ toString n) p)
        match supply with
        | .error e =>
          (.exit 1, complain ("Cannot open input file " ++ Tooling.quoted (o.file.getD "") ++ ": " ++ e.description) p)
        | .ok bytes =>
          let (commands, mistake) := o.commands (Octets.ofBytes bytes).toList
          let (code, _, p) := commands.foldl step (0, false, p)
          match mistake with
          | some message => (.exit 1, complain message p)
          | none => (.exit code, p)
    | "find" =>
      match Tool.findSteps p.files inv.args with
      | .error message => (.exit 1, complain message p)
      | .ok steps =>
        let step := fun (acc : Nat × Process) (s : Tool.Step) =>
          let (code, p) := acc
          match s with
          | .say text => (code, p.say text)
          | .complain message => (1, complain message p)
          | .delete name =>
            match p.files.remove (Process.pathOf name) with
            | .ok files => (code, { p with files })
            | .error e => (1, complain ("cannot delete " ++ Tooling.literal name ++ ": " ++ e.description) p)
          | .run cmd =>
            match Image.locate p.files p.environment (cmd.headD "") (cmd.drop 1) with
            | .error e => (1, complain (Tooling.literal (cmd.headD "") ++ ": " ++ e.description) p)
            | .ok next =>
              let (_, q) := start fuel next (p.child p.environment)
              (code, p.after q)
        let (code, p) := steps.foldl step (0, p)
        (.exit code, p)
    | "which" =>
      let path := (p.environment.get? "PATH").getD ""
      let step := fun (acc : Nat × Process) (name : String) =>
        match Image.whereIs p.files path name with
        | some file => (acc.1, acc.2.say (file ++ "\n"))
        | none => (1, acc.2)
      let names := inv.args.filter fun a => !a.startsWith "-"
      let (code, p) := names.foldl step (if names.isEmpty then 1 else 0, p)
      (.exit code, p)
    | "kill" =>
      let (signal, targets) := match inv.args with
        | "-s" :: name :: rest => (Signal.number? name, rest)
        | a :: rest =>
          if a.startsWith "-" then (Signal.number? (String.ofList (a.toList.drop 1)), rest) else (some 15, inv.args)
        | [] => (none, [])
      match signal with
      | none => (.exit 1, p)
      | some n =>
        let pids := targets.filterMap String.toNat?
        (.exit 0, { p with pending := p.pending ++ pids.map fun pid => (pid, n) })
    | tool =>
      match Toolbox.find? tool with
      | some f => Tooling.start (f inv.args) inv.name p
      | none => (.exit 127, p)

/-- runs a shell: on a script given as an argument, on a file, or on its input -/
def shell (fuel : Nat) (dialect : Dialect) (inv : Invocation) (p : Process) : Ending × Process :=
  match fuel with
  | 0 => (.signal 11, p)
  | fuel + 1 =>
    let frame : Frame :=
      { dialect, name := inv.name, args := [], main := p.pid, bindings := firstVariables dialect p
        switches := Frame.firstSwitches dialect
        traps := p.ignored.map fun n => (n, "") }
    let body : Running Unit := do
      match ← shellOrder dialect (8 * inv.args.length + 100) {} inv.args with
      | none => throw (.finish (.exit 2))
      | some o =>
        let execute := fun (name : String) (args : List String) (inline : Bool) (text : String) => do
          modifyFrame ({ · with name, script := name, args, isInline := inline })
          feedText (if inline then some "-c" else none) text fun script isLast => run fuel isLast script
        if o.inline then
          match o.operands with
          | [] => do
            modifyProcess (·.complain (inv.name ++ ": " ++
              (if dialect = .plain then "0: -c requires an argument" else "-c: option requires an argument") ++ "\n"))
            throw (.finish (.exit 2))
          | text :: rest => execute (rest.headD inv.name) (rest.drop 1) true text
        else
          match o.operands, o.fromInput with
          | file :: rest, false =>
            match p.files.read (Process.pathOf file) with
            | .ok bytes => execute file rest false (Octets.ofBytes bytes)
            | .error e =>
              if dialect = .plain then
                if e = .isDirectory then pure ()
                else do
                  let reason := if e = .notFound || e = .notDirectory then "No such file" else e.description
                  modifyProcess (·.complain (inv.name ++ ": 0: cannot open " ++ file ++ ": " ++ reason ++ "\n"))
                  throw (.finish (.exit 2))
              else if e = .isDirectory then do
                modifyProcess (·.complain (file ++ ": " ++ file ++ ": Is a directory\n"))
                throw (.finish (.exit 126))
              else do
                modifyProcess (·.complain (inv.name ++ ": " ++ file ++ ": " ++ e.description ++ "\n"))
                throw (.finish (.exit (if e = .notFound || e = .notDirectory then 127 else 126)))
          | rest, _ => do
            let (bytes, q) := (← process).readInput
            modifyProcess fun _ => q
            execute inv.name rest false (Octets.ofBytes bytes)
    let (r, s) := (concluding fuel body).run { process := p, frame }
    let (_, s) := (finishJobs fuel fun _ => true).run s
    (endingOf r s.frame, s.process)

end

/-- the fuel of a program -/
def patience : Nat := 12000

end Benchwork.Shell
