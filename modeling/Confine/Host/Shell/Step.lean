import Confine.Host.Shell.Builtin

/-!
The steps of a shell. What is on top of its stack tells what it asks for, and the reply takes it to
the next state.
-/

namespace Confine.Host.Shell

/-- The descriptors that a shell uses for the pipes of a pipeline and of a substitution. -/
def pipeRead : Nat := 90

def pipeWrite : Nat := 91

def previousRead : Nat := 92

def outputRead : Nat := 93

def outputWrite : Nat := 94

/-- The descriptor of a script file. -/
def scriptFile : Nat := 99

/-- The bytes of one read. -/
def readSize : Nat := 8192

def closing (fds : List Nat) : List Frame := fds.map fun fd => .call (.close fd) .ignore

/-- Starts the next command substitution of a task. -/
def substitute (sh : Shell) (source : List Char) : Shell :=
  sh.push
    [.call (.pipe outputRead outputWrite) .ignore,
      .fork ([.call (.duplicate outputWrite 1) .ignore] ++ closing [outputRead, outputWrite] ++
        [.script source (source.count '\n') false]) .substitution]

/-- The descriptor that the target of a duplication names: a digit, or nothing for a dash. -/
def duplicateSource? (target : String) : Option (Option Nat) :=
  if target = "-" then some none
  else if target.length = 1 then (Octets.digits? target).map some
  else none

/-- The frames that carry out a redirection whose target is known. -/
def redirecting (sh : Shell) (r : Redirect) (target : String) (saved : Bool) : List Frame :=
  let keep : List Frame :=
    let copy := freeCopy sh.frames
    if saved then [.call (.duplicate r.fd copy) (.kept r.fd copy)] else []
  keep ++
    match r.kind with
    | .input => [.call (.openPath r.fd target .reading) (.opened target false)]
    | .output => [.call (.openPath r.fd target .writing) (.opened target true)]
    | .append => [.call (.openPath r.fd target .appending) (.opened target true)]
    | .inputOutput => [.call (.openPath r.fd target .both) (.opened target true)]
    | .duplicate =>
      match duplicateSource? target with
      | some (some source) => [.call (.duplicate source r.fd) (.duplicated target)]
      | some none => closing [r.fd]
      | none => []
    | .here =>
      [.call (.pipe outputRead outputWrite) .ignore, .call (.duplicate outputRead r.fd) .ignore,
        .fork (closing [outputRead] ++
          [.call (.write outputWrite (Octets.toBytes target)) .ignore, .leave 0]) .ignore] ++
        closing [outputRead, outputWrite]

/-- Redirections as tasks. -/
def redirectTasks (rs : List Redirect) (saved : Bool) : List Frame :=
  rs.map fun r => .task (.redirect r saved)

/-- The values of assignments, each seeing those before it. -/
def assignmentValues (s : Store) : List (String × Word) →
    Except ExpansionError (List (String × String) × Store)
  | [] => .ok ([], s)
  | (name, word) :: rest => do
    let (v, s) ← Expansion.wordText s word
    let (vs, s) ← assignmentValues (s.set name v) rest
    return ((name, v) :: vs, s)

/-- Whether a child of a shell has nothing to come back to. -/
def atTail (sh : Shell) : Bool := sh.isChild && sh.frames.isEmpty && sh.traps.isEmpty

/-- Runs a program in a child, or in place of a shell that has nothing else to do. -/
def launch (sh : Shell) (c : SimpleCommand) (values : List (String × String))
    (args : List String) : Shell :=
  let work : List Frame := [.bind values true, .become none args]
  if sh.atTail then sh.push (redirectTasks c.redirects false ++ work)
  else if c.redirects.isEmpty then sh.push [.fork work .foreground]
  else sh.push (redirectTasks c.redirects true ++ [.fork work .foreground, .restore []])

/-- Shows a command that is about to be carried out, if the option for that is on. -/
def traced (sh : Shell) (values : List (String × String)) (args : List String) : Shell :=
  if sh.store.hasOption 'x' then
    let shown := values.map (fun (n, v) => n ++ "=" ++ v) ++ args
    sh.push [toStderr ((sh.store.value? "PS4").getD "" ++ " ".intercalate shown ++ "\n")]
  else sh

/-- Carries out a simple command whose arguments are known. -/
def dispatch (sh : Shell) (c : SimpleCommand) (args : List String) : Shell :=
  match assignmentValues sh.store c.assignments with
  | .error e => sh.abort e.message 2
  | .ok (values, assigned) =>
    match values.find? fun (name, _) => sh.store.isReadOnly name with
    | some (name, _) => sh.abort (name ++ ": is read only") 2
    | none =>
      let trace (sh : Shell) : Shell := sh.traced values args
      trace <| match args with
      | [] =>
        let status := sh.substituted.getD 0
        let redirected : List Frame :=
          if c.redirects.isEmpty then [] else redirectTasks c.redirects true ++ [.restore []]
        ({ sh with store := assigned }.setStatus status).push redirected
      | name :: rest =>
        match sh.functions.lookup name with
        | some body =>
          let old := values.map fun (n, _) => (n, sh.store.find? n)
          sh.push (redirectTasks c.redirects true ++
            [.bind values true, .function body rest, .unbind old, .restore []])
        | none =>
          if name = "exec" then
            sh.push (redirectTasks c.redirects false ++ [.bind values true, .builtin args])
          else if specialBuiltins.contains name then
            sh.push (redirectTasks c.redirects true ++
              [.bind values false, .builtin args, .restore []])
          else if Builtin.regular.contains name then
            let old := values.map fun (n, _) => (n, sh.store.find? n)
            sh.push (redirectTasks c.redirects true ++
              [.bind values true, .builtin args, .unbind old, .restore []])
          else launch sh c values args

/-- Frames whose end is tested if the option to leave on a failure is on. -/
def checking (sh : Shell) : List Frame := if sh.store.hasOption 'e' then [.checked] else []

/-- Goes on with a task whose command substitutions are filled in. -/
def performTask (sh : Shell) : Task → Shell
  | .simple c =>
    match Expansion.wordsFields sh.store c.words with
    | .error e => { sh with line := c.line }.abort e.message 2
    | .ok (fields, store) => { sh with store, line := c.line }.push [.arguments c fields []]
  | .forEach name words body line =>
    match Expansion.wordsFields sh.store words with
    | .error e => { sh with line }.abort e.message 2
    | .ok (fields, store) =>
      let values := fields.map fun ms => String.ofList (ms.map (·.1))
      ({ sh with store, line }.setStatus 0).push [.forNext name values body]
  | .choose subject cases line =>
    match Expansion.wordText sh.store subject with
    | .error e => { sh with line }.abort e.message 2
    | .ok (text, store) => pick { sh with store, line } text.toList cases
  | .redirect r saved =>
    match Expansion.wordText sh.store r.target with
    | .error e => sh.abort e.message 2
    | .ok (target, store) =>
      let sh := { sh with store }
      if r.kind = .duplicate && (duplicateSource? target).isNone then
        { sh with frames := unwindRedirection sh.frames }.complain "Syntax error: Bad fd number" 2
      else sh.push (redirecting sh r target saved)
where
  /-- Takes the first case that a text fits. -/
  pick (sh : Shell) (text : List Char) : List (List Word × Command) → Shell
    | [] => sh.setStatus 0
    | (words, body) :: rest =>
      let fits := words.any fun w =>
        match Expansion.wordPattern sh.store w with
        | .ok (p, _) => Pattern.accepts p text
        | .error _ => false
      if fits then (sh.setStatus 0).push [.run body] else pick sh text rest

/-- Begins a command. -/
def begin_ (sh : Shell) : Command → Shell
  | .nothing => sh
  | .simple c => { sh with substituted := none }.push (.task (.simple c) :: sh.checking)
  | .sequence a b => sh.push [.run a, .run b]
  | .both a b => sh.push [.run a, .andThen b]
  | .either a b => sh.push [.run a, .orElse b]
  | .negate c => sh.push [.run c, .negate]
  | .pipe a b => sh.push ([.stages false (Command.stages (.pipe a b)) []] ++ sh.checking)
  | .background c =>
    sh.push [.fork [.call (.arrange Signal.interrupt .ignored) .ignore,
      .call (.arrange Signal.quit .ignored) .ignore,
      .call (.openPath 0 "/dev/null" .reading) .ignore, .run c] .background]
  | .group c rs =>
    if rs.isEmpty then sh.push [.run c]
    else sh.push (redirectTasks rs true ++ [.run c, .restore []])
  | .subshell c rs =>
    sh.push ([.fork (redirectTasks rs false ++ [.run c]) .foreground] ++ sh.checking)
  | .branch test yes no => sh.push [.run test, .branch yes no]
  | .loop inverted test body => sh.push [.run test, .loopTest inverted test body 0]
  | .forEach name words body line =>
    match words with
    | some ws => sh.push [.task (.forEach name ws body line)]
    | none => (sh.setStatus 0).push [.forNext name sh.store.positional body]
  | .choose subject cases line => sh.push [.task (.choose subject cases line)]
  | .define name body =>
    { sh.setStatus 0 with
      functions := (name, body) :: sh.functions.filter fun (n, _) => n ≠ name }

/-- Starts the next stage of a pipeline; after the last one all are waited for. -/
def nextStage (sh : Shell) (input : Bool) (rest : List Command) (pids : List Nat) : Shell :=
  let plugIn : List Frame :=
    if input then [.call (.duplicate previousRead 0) .ignore] ++ closing [previousRead] else []
  match rest with
  | [] => sh.push [.await pids]
  | [last] =>
    sh.push ([.fork (plugIn ++ [.run last]) .stage] ++
      (if input then closing [previousRead] else []) ++ [.stages false [] pids])
  | stage :: more =>
    sh.push ([.call (.pipe pipeRead pipeWrite) .ignore,
      .fork (plugIn ++ [.call (.duplicate pipeWrite 1) .ignore] ++ closing [pipeRead, pipeWrite] ++
        [.run stage]) .stage,
      .call (.duplicate pipeRead previousRead) .ignore] ++ closing [pipeRead, pipeWrite] ++
      [.stages true more pids])

/-- Notes a started stage in the pipeline that it belongs to. -/
def noteStage (pid : Nat) : List Frame → List Frame
  | [] => []
  | .stages input rest pids :: fs => .stages input rest (pids ++ [pid]) :: fs
  | f :: fs => f :: noteStage pid fs

/-- Whether a character of a line that was read separates fields; one that was escaped does not. -/
def isSeparator (separators : List Char) (m : Char × Bool) : Bool :=
  !m.2 && separators.contains m.1

def isBlankSeparator (separators : List Char) (m : Char × Bool) : Bool :=
  isSeparator separators m && [' ', '\t', '\n'].contains m.1

/-- The first field of a line and what is behind its separator. -/
def cutField (separators : List Char) (line : List (Char × Bool)) :
    List (Char × Bool) × List (Char × Bool) :=
  let line := line.dropWhile (isBlankSeparator separators)
  let field := line.takeWhile fun m => !isSeparator separators m
  match (line.drop field.length).dropWhile (isBlankSeparator separators) with
  | m :: rest => if isSeparator separators m then (field, rest) else (field, m :: rest)
  | [] => (field, [])

/-- Gives a line that was read to variables: all but the last get one field each, and the last one
what is left, without blanks around it. -/
def dealLine (separators : List Char) :
    List String → List (Char × Bool) → List (String × String)
  | [], _ => []
  | [name], line =>
    let (field, rest) := cutField separators line
    let trim (l : List (Char × Bool)) := l.dropWhile (isBlankSeparator separators)
    let left := if rest.isEmpty then field else (trim (trim line).reverse).reverse
    [(name, String.ofList (left.map (·.1)))]
  | name :: names, line =>
    let (field, rest) := cutField separators line
    (name, String.ofList (field.map (·.1))) :: dealLine separators names rest

/-- Finishes a read of a line. -/
def finishLine (sh : Shell) (line : List (Char × Bool)) (names : List String) (status : Nat) :
    Shell :=
  let values := dealLine sh.store.separators names line.reverse
  { sh with
    store := { values.foldl (fun s (n, v) => s.set n v) sh.store with status } }

/-- Takes one byte into a line that is being read. -/
def readByte (sh : Shell) (raw : Bool) (line : List (Char × Bool)) (escaped : Bool)
    (names : List String) (c : Char) : Shell :=
  let goOn (line : List (Char × Bool)) (escaped : Bool) : Shell :=
    sh.push [.readLine raw line escaped names]
  if c = '\x00' then goOn line escaped
  else if escaped then
    if c = '\n' then goOn line false else goOn ((c, true) :: line) false
  else if c = '\\' && !raw then goOn line true
  else if c = '\n' then sh.finishLine line names 0
  else goOn ((c, false) :: line) false

/-- The names in a directory that fit a pattern; names that start with a dot are hidden unless the
pattern starts with one. -/
def matching (pattern : List Marked) (names : List String) : List String :=
  let p := Pattern.ofMarked pattern
  names.filter fun n =>
    (n.toList.head? ≠ some '.' || pattern.head?.map (·.1) = some '.') && Pattern.accepts p n.toList

/-- A pattern of path names as its directory and the pattern of the last part. -/
def splitField (ms : List Marked) : List Char × List Marked :=
  let last := (ms.reverse.takeWhile fun m => m.1 ≠ '/').reverse
  ((ms.take (ms.length - last.length)).map (·.1), last)

/-- Whether the option to leave on a failure ends the shell now. -/
def failsHere (sh : Shell) : Bool :=
  sh.store.status ≠ 0 && sh.store.hasOption 'e' && !isTested sh.frames

/-- Starts the action of a caught signal, if one is waiting and a command is about to begin. -/
def interruption? (sh : Shell) : Option Shell :=
  let atCommand := match sh.frames with
    | [] | .run _ :: _ | .script .. :: _ | .loopTest .. :: _ | .forNext .. :: _ | .andThen _ :: _
    | .orElse _ :: _ | .branch .. :: _ => true
    | _ => false
  match sh.caught with
  | [] => none
  | n :: rest =>
    if !atCommand then none
    else
      let action := (sh.traps.lookup n).getD ""
      some ({ sh with caught := rest }.push
        [.script action.toList (action.toList.count '\n') false, .trapped sh.store.status])

/-- Takes the frame from the top and does what it says. Frames that ask the host are left alone. -/
def advance (sh : Shell) : Shell :=
  match sh.frames with
  | [] => { sh with frames := [.leave sh.store.status] }
  | f :: fs =>
    let sh' := { sh with frames := fs }
    match f with
    | .script rest lines fromInput =>
      if rest.isEmpty then
        if fromInput then sh'.push [.readScript [] lines] else sh'
      else
        match Script.line lines rest with
        | .ok (c, rest) =>
          let more : List Frame :=
            if rest.isEmpty && !fromInput then [] else [.script rest lines fromInput]
          sh'.push (.run c :: more)
        | .error fault =>
          if fromInput && fault.kind.incomplete then sh'.push [.readScript rest lines]
          else { sh' with line := lines + 1 - fault.linesBehind }.abort fault.kind.message 2
    | .run c => if sh.store.hasOption 'n' then sh' else sh'.begin_ c
    | .task t =>
      match t.command? sh.store with
      | some source => sh.substitute source
      | none => sh'.performTask t
    | .arguments c fields args =>
      match fields with
      | [] => sh'.dispatch c args
      | field :: more =>
        if Pattern.hasActive field then sh
        else sh'.push [.arguments c more (args ++ [String.ofList (field.map (·.1))])]
    | .bind values exported =>
      let store := values.foldl (fun s (n, v) =>
        if exported then (s.set n v).markExported n else s.set n v) sh.store
      { sh' with store }
    | .unbind old =>
      { sh' with store := old.foldl (fun s (n, v) => s.restore n v) sh.store }
    | .builtin args =>
      match args with
      | [] => sh'.setStatus 0
      | name :: rest =>
        match Builtin.run sh' name rest with
        | some sh => sh
        | none => sh'.push [.fork [.become none args] .foreground]
    | .become .. => sh
    | .function body args =>
      { sh' with store := { sh.store with positional := args } }.push
        [.run body, .returned sh.store.positional []]
    | .sourced => sh'
    | .returned positional locals =>
      let store := locals.foldl (fun s (n, v) => s.restore n v) sh.store
      { sh' with store := { store with positional } }
    | .restore kept => sh'.push (restoring kept)
    | .andThen c => if sh.store.status = 0 then sh'.push [.run c] else sh'
    | .orElse c => if sh.store.status = 0 then sh' else sh'.push [.run c]
    | .negate => sh'.setStatus (if sh.store.status = 0 then 1 else 0)
    | .branch yes no =>
      if sh.store.status = 0 then sh'.push [.run yes]
      else
        match no with
        | .nothing => sh'.setStatus 0
        | _ => sh'.push [.run no]
    | .loopTest inverted test body last =>
      if (sh.store.status = 0) != inverted then
        sh'.push [.run body, .loopAgain inverted test body]
      else sh'.setStatus last
    | .loopAgain inverted test body =>
      sh'.push [.run test, .loopTest inverted test body sh.store.status]
    | .forNext name values body =>
      match values with
      | [] => sh'
      | v :: more =>
        { sh' with store := sh.store.set name v }.push [.run body, .forNext name more body]
    | .stages input rest pids => sh'.nextStage input rest pids
    | .await [] => sh'
    | .waitFor [] => sh'
    | .waitFor (pid :: more) =>
      match sh.jobs.find? fun j => j.pid = pid with
      | none => (sh'.setStatus 127).push (if more.isEmpty then [] else [.waitFor more])
      | some ⟨_, some status⟩ =>
        (sh'.setStatus status).push (if more.isEmpty then [] else [.waitFor more])
      | some ⟨_, none⟩ => sh
    | .locate wordy name [] =>
      (sh'.push (if wordy then [toOutput (name ++ ": not found")] else [])).setStatus 127
    | .condition who args paths known =>
      match paths with
      | [] =>
        match Condition.holds (fun path => (List.lookup path known).join) args with
        | .ok v => sh'.setStatus (if v then 0 else 1)
        | .error fault => sh'.complain (who ++ ": " ++ fault.message) 2
      | _ => sh
    | .setStatus n => sh'.setStatus n
    | .trapped status => sh'.setStatus status
    | .checked => if sh'.failsHere then { sh' with frames := [.leave sh.store.status] } else sh'
    | .leave status =>
      match sh.traps.lookup 0 with
      | some action =>
        { sh with
          traps := sh.traps.filter fun (n, _) => n ≠ 0
          store := { sh.store with status }
          frames := [.script action.toList (action.toList.count '\n') false, .leave status] }
      | none => { sh with frames := [.call (.exit status) .ignore] }
    | _ => sh

/-- What a shell asks for: the call of its top frame, or else just time for its next step. A fork
asks for a child with other frames. -/
def request (sh : Shell) : Call Shell :=
  match sh.frames with
  | f :: _ =>
    match f with
    | .call c _ => c.mapFork nofun
    | .fork child _ => .fork (sh.child child)
    | .await (pid :: _) => .wait (some pid)
    | .waitAll => .wait none
    | .waitFor (pid :: _) =>
      if sh.jobs.any fun j => j.pid = pid && j.status.isNone then .wait (some pid) else .compute
    | .collect .. => .read outputRead readSize
    | .collected _ pid => .wait (some pid)
    | .readLine .. => .read 0 1
    | .readScript .. => .read 0 readSize
    | .readFile _ => .read scriptFile readSize
    | .become _ (name :: args) => .execute (sh.searchPlaces name) (name :: args) sh.store.bindings
    | .condition _ _ (path :: _) _ => .inspect path
    | .locate _ _ (path :: _) => .inspect path
    | .arguments _ (field :: _) _ =>
      if Pattern.hasActive field then
        let dir := String.ofList (splitField field).1
        .list (if dir = "" then "." else dir)
      else .compute
    | _ => .compute
  | [] => .compute

/-- The message about a file that could not be opened. -/
def openFault (path : String) (creating : Bool) (e : OsError) : String :=
  let missing := e = .noEntry || e = .notDirectory
  if creating then
    "cannot create " ++ path ++ ": " ++ (if missing then "Directory nonexistent" else e.description)
  else "cannot open " ++ path ++ ": " ++ (if missing then "No such file" else e.description)

/-- Goes on from the reply to a call; `sh` is the shell without the frame that asked. -/
def settle (sh : Shell) (reply : Reply) : After → Shell
  | .ignore => sh
  | .written who =>
    match reply with
    | .failed _ => sh.complain (who ++ ": " ++ who ++ ": I/O error") 1
    | _ => sh.setStatus 0
  | .opened path creating =>
    match reply with
    | .failed e =>
      { sh with frames := unwindRedirection sh.frames }.complain (openFault path creating e) 2
    | _ => sh
  | .duplicated source =>
    match reply with
    | .failed e =>
      { sh with frames := unwindRedirection sh.frames }.complain (source ++ ": " ++ e.description) 2
    | _ => sh
  | .kept fd copy =>
    match reply with
    | .failed _ => { sh with frames := noteKept fd none sh.frames }
    | _ => { sh with frames := noteKept fd (some copy) sh.frames }
  | .foreground =>
    match reply with
    | .pid n => sh.push [.await [n]]
    | _ => sh.complain "Cannot fork" 2
  | .background =>
    match reply with
    | .pid n =>
      { sh with
        jobs := sh.jobs ++ [{ pid := n }]
        store := { sh.store with lastBackground := some n, status := 0 } }
    | _ => sh.complain "Cannot fork" 2
  | .stage =>
    match reply with
    | .pid n => { sh with frames := noteStage n sh.frames }
    | _ => sh.complain "Cannot fork" 2
  | .substitution =>
    match reply with
    | .pid n => sh.push (closing [outputWrite] ++ [.collect [] n])
    | _ => sh.complain "Cannot fork" 2
  | .notBecome who name =>
    match reply with
    | .failed e =>
      let missing := e = .noEntry || e = .notDirectory || e = .nameTooLong ||
        (who.isNone && !name.toList.contains '/')
      let reason :=
        if e = .noEntry || e = .notDirectory then "not found" else e.description
      sh.abort (inNameOf who (name ++ ": " ++ reason)) (if missing then 127 else 126)
    | _ => sh
  | .moved target shown =>
    match reply with
    | .failed _ => sh.complain ("cd: can't cd to " ++ target) 2
    | _ => sh.push [.call .currentDir (.located shown true)]
  | .located shown moved =>
    match reply with
    | .text dir =>
      let old := (sh.store.value? "PWD").getD ""
      let store := if moved then (sh.store.set "OLDPWD" old).markExported "OLDPWD" else sh.store
      let sh := { sh with store := { (store.set "PWD" dir).markExported "PWD" with status := 0 } }
      if shown then Builtin.print sh "pwd" (dir ++ "\n") else sh
    | _ => sh
  | .signalled who =>
    match reply with
    | .failed e => sh.complain (who ++ ": " ++ e.description ++ "\n") 1
    | _ => sh
  | .boundShown hard unit =>
    match reply with
    | .bound b =>
      let text := match if hard then b.hard else b.soft with
        | some n => toString (n / unit)
        | none => "unlimited"
      Builtin.print sh "ulimit" (text ++ "\n")
    | _ => sh
  | .boundKnown r soft hard value =>
    match reply with
    | .bound b =>
      let b : Bound := ⟨if soft then value else b.soft, if hard then value else b.hard⟩
      sh.push [.call (.setBound r b) .boundSet]
    | _ => sh
  | .boundSet =>
    match reply with
    | .failed e => sh.complain ("ulimit: error setting limit (" ++ e.description ++ ")") 2
    | _ => sh.setStatus 0
  | .scriptOpened who path =>
    match reply with
    | .failed e => sh.abort (inNameOf who (openFault path false e)) 2
    | _ =>
      match who with
      | some _ => sh.push [.readFile [], .sourced]
      | none =>
        { sh with line := 1, store := { sh.store with shellName := path } }.push [.readFile []]

/-- Goes on from the status of a child. -/
def ended (sh : Shell) (rest : List Nat) (reply : Reply) : Shell :=
  match reply with
  | .ended _ raw =>
    let sh := sh.setStatus (childStatus raw)
    sh.push (obituary raw ++ (if rest.isEmpty then [] else [.await rest]))
  | _ => if rest.isEmpty then sh else sh.push [.await rest]

/-- Notes the status of a background child. -/
def noteJob (sh : Shell) (pid : Nat) (raw : Int) : Shell :=
  { sh with
    jobs := sh.jobs.map fun j =>
      if j.pid = pid then { j with status := some (childStatus raw) } else j }

/-- The status of a wait that a signal cut short. -/
def interruptedStatus (sh : Shell) : Nat := 128 + sh.caught.headD 0

/-- The characters of bytes without the zeros, which no text can hold. -/
def textOfBytes (b : Bytes) : List Char :=
  (Octets.ofBytes b).toList.filter (· ≠ '\x00')

/-- Goes on from a reply, or takes the next step of the shell's own. -/
def resume (sh : Shell) (reply : Reply) : Shell :=
  match sh.interruption? with
  | some sh => sh
  | none =>
    match sh.frames with
    | [] => sh.advance
    | f :: fs =>
      let sh' := { sh with frames := fs }
      match f with
      | .call _ after => sh'.settle reply after
      | .fork _ after => sh'.settle reply after
      | .await (_ :: rest) =>
        match reply with
        | .interrupted => sh
        | _ => sh'.ended rest reply
      | .waitAll =>
        match reply with
        | .interrupted => sh'.setStatus sh.interruptedStatus
        | .ended pid raw => sh.noteJob pid raw
        | _ => sh'.setStatus 0
      | .waitFor (pid :: _) =>
        match reply with
        | .interrupted => sh'.setStatus sh.interruptedStatus
        | .ended _ raw => (sh.noteJob pid raw).push (obituary raw)
        | _ => sh.advance
      | .collect output pid =>
        match reply with
        | .data [] =>
          let text := (output.reverse.flatMap textOfBytes).reverse.dropWhile (· = '\n')
          sh'.push (closing [outputRead] ++ [.collected text.reverse pid])
        | .data b => sh'.push [.collect (b :: output) pid]
        | _ => sh
      | .collected text _ =>
        match reply with
        | .ended _ raw =>
          let status := childStatus raw
          let fs := match fs with
            | .task t :: more => .task (t.fill sh.store text) :: more
            | _ => fs
          ({ sh' with frames := fs, substituted := some status }.setStatus status).push
            (obituary raw)
        | _ => sh
      | .readLine raw line escaped names =>
        match reply with
        | .data [] => sh'.finishLine line names 1
        | .data (b :: _) => sh'.readByte raw line escaped names (Char.ofNat b.toNat)
        | .interrupted => sh
        | _ => sh'.finishLine line names 1
      | .readScript rest lines =>
        match reply with
        | .data [] => sh'.push [.script rest lines false]
        | .data b =>
          let more := textOfBytes b
          let text := rest ++ more
          let lines := lines + more.count '\n'
          if more.contains '\n' then sh'.push [.script text lines true]
          else sh'.push [.readScript text lines]
        | .interrupted => sh
        | _ => sh'
      | .readFile content =>
        match reply with
        | .data [] =>
          let text := content.reverse.flatMap textOfBytes
          sh'.push (closing [scriptFile] ++ [.script text (text.count '\n') false])
        | .data b => sh'.push [.readFile (b :: content)]
        | _ => sh'
      | .become who (name :: _) => sh'.settle reply (.notBecome who name)
      | .locate wordy name (path :: paths) =>
        match reply with
        | .node (.program _) =>
          sh'.push [toOutput (if wordy then name ++ " is " ++ path else path)]
        | _ => sh'.push [.locate wordy name paths]
      | .condition who args (path :: paths) known =>
        let node := match reply with
          | .node n => some n
          | _ => none
        sh'.push [.condition who args paths (known ++ [(path, node)])]
      | .arguments c (field :: more) args =>
        if Pattern.hasActive field then
          let (dir, last) := splitField field
          let found := match reply with
            | .names ns => (matching last ns).map (String.ofList dir ++ ·)
            | _ => []
          let whole := String.ofList (field.map (·.1))
          sh'.push [.arguments c more (args ++ (if found.isEmpty then [whole] else found))]
        else sh.advance
      | _ => sh.advance

/-- The handler of a caught signal. -/
def signalled (sh : Shell) (number : Nat) : Shell := { sh with caught := sh.caught ++ [number] }

/-- The options and operands that a shell is started with. -/
structure Start where
  fromArgument : Bool := false
  fromInput : Bool := false
  options : List Char := []
  operands : List String := []

namespace Start

/-- Reads options up to the first operand. -/
def ofArgs (t : Start) : List String → Start
  | [] => t
  | arg :: rest =>
    match arg.toList with
    | ['-', '-'] | ['-'] => { t with operands := rest }
    | '-' :: cs =>
      { t with
        fromArgument := t.fromArgument || cs.contains 'c'
        fromInput := t.fromInput || cs.contains 's'
        options := t.options ++ cs.filter fun c => c ≠ 'c' && c ≠ 's' }.ofArgs rest
    | _ => { t with operands := arg :: rest }

end Start

/-- A shell that has just been started as the process `pid`. -/
def start (pid : Nat) (args : List String) (env : Bindings) : Shell :=
  let invoked := args.headD "sh"
  let t := Start.ofArgs {} (args.drop 1)
  let make (name : String) (positional : List String) (frames : List Frame) : Shell :=
    let store := { Store.ofBindings name positional env with pid, options := t.options }
    { store, frames := .call .currentDir (.located false false) :: frames }
  if t.fromArgument then
    match t.operands with
    | [] => { make invoked [] [] with line := 0 }.abort "-c requires an argument" 2
    | text :: rest =>
      let cs := text.toList
      make (rest.headD invoked) (rest.drop 1) [.script cs (cs.count '\n') false]
  else
    match if t.fromInput then [] else t.operands with
    | [] => make invoked t.operands [.readScript [] 0]
    | path :: rest =>
      let reading : List Frame :=
        [.call (.openPath scriptFile path .reading) (.scriptOpened none path)]
      { make invoked rest reading with line := 0 }

end Confine.Host.Shell
