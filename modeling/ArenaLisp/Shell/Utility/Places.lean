import ArenaLisp.Shell.Effect
import ArenaLisp.Shell.Pattern

/-!
# Files and directories

Utilities that list, make, move and remove files and directories, and those that cut paths.

## Main definitions

- `Work`: the files and messages of a utility that goes through its operands.
- `Request.ls`, `Request.find`: what is there.
- `Request.mkdir`, `Request.rmdir`, `Request.touch`, `Request.rm`, `Request.cp`, `Request.mv`:
  changes.
- `Request.tee`: the input written to files.
- `Request.basename`, `Request.dirname`: the parts of a path.
-/

namespace ArenaLisp.Shell

/-- The files and messages of a utility that goes through its operands. -/
structure Work where
  files : FileTree
  chunks : List (Bool × Octets) := []
  status : Nat := 0

namespace Work

/-- A message about an operand that cannot be dealt with. -/
def fail (w : Work) (message : Octets) : Work :=
  { w with chunks := w.chunks ++ [(true, message ++ ['\n'])], status := 1 }

/-- What the work comes down to. -/
def effect (w : Work) : Effect := { chunks := w.chunks, status := w.status, files := some w.files }

end Work

namespace Request

/-- The work of a utility on each of its operands. -/
def work (r : Request) (operands : List Octets) (step : Work → Octets → Work) : Effect :=
  (operands.foldl step { files := r.files }).effect

/-- What a utility does without the operands that it needs. -/
def missing (r : Request) (what : String) : Effect :=
  .failure 1 (r.naming (octets what) ++ octets "\nTry '" ++ r.name ++
    octets " --help' for more information.")

/-- The place inside of the tree that an operand leads to, or would lead to. -/
def target (r : Request) (files : FileTree) (operand : Octets) : Except FileFault (List String) :=
  match files.resolve (r.path operand) with
  | .ok (.inside place) => .ok place
  | .ok _ => .error (.isDirectory (r.path operand))
  | .error _ => files.vacancy (r.path operand)

/-- A path without the slashes at its end. -/
def withoutFinalSlashes (path : Octets) : Octets :=
  let kept := (path.reverse.dropWhile (· = '/')).reverse
  if kept.isEmpty then path.take 1 else kept

/-- The last component of a path. -/
def lastComponent (path : Octets) : Octets :=
  let path := withoutFinalSlashes path
  if path = ['/'] then path else (path.reverse.takeWhile (· ≠ '/')).reverse

/-- A path without its last component. -/
def frontOf (path : Octets) : Octets :=
  let path := withoutFinalSlashes path
  let name := lastComponent path
  let front := path.take (path.length - name.length)
  if path = ['/'] then path
  else if front.isEmpty then ['.']
  else withoutFinalSlashes front

/-- The path of a name in a directory. -/
def inDirectory (directory name : Octets) : Octets :=
  if directory.getLast? = some '/' then directory ++ name else directory ++ '/' :: name

/-! ## Listings -/

/-- The names in a directory, in order. -/
def namesIn (r : Request) (directory : Octets) : List Octets :=
  match r.files.list (r.path directory) with
  | .ok names => (names.map octets).mergeSort octetsLe
  | .error _ => []

/-- Whether an operand is a directory. -/
def isDirectory (r : Request) (operand : Octets) : Bool := r.files.isDirectory (r.path operand)

/-- A name as a listing shows it. -/
def shownName (r : Request) (f : Flags) (directory name : Octets) : Octets :=
  let path := if directory.isEmpty then name else inDirectory directory name
  if (f.has 'F' || f.has 'p') && r.isDirectory path then name ++ ['/'] else name

/-- Names as a listing shows them. -/
def rows (f : Flags) (names : List Octets) : Octets :=
  if names.isEmpty then []
  else if f.has 'm' then List.intercalate [',', ' '] names ++ ['\n']
  else unlines names

/-- The names of a directory that a listing shows, in its order. -/
def listed (r : Request) (f : Flags) (directory : Octets) : List Octets :=
  let names := r.namesIn directory
  let names :=
    if f.has 'a' then (['.'] :: ['.', '.'] :: names).mergeSort octetsLe
    else if f.has 'A' then names
    else names.filter fun name => name.head? ≠ some '.'
  if f.has 'r' then names.reverse else names

/-- The listings of a directory and, if asked for, of those below it; at most `fuel` levels. -/
def listings (r : Request) (f : Flags) : Nat → Octets → List (Octets × Octets)
  | 0, _ => []
  | fuel + 1, directory =>
    let names := r.listed f directory
    let own := (directory, rows f (names.map (r.shownName f directory)))
    if f.has 'R' then
      own :: names.flatMap fun name =>
        let path := inDirectory directory name
        if name ≠ ['.'] && name ≠ ['.', '.'] && r.isDirectory path then r.listings f fuel path
        else []
    else [own]

/-- The names of files, then the listings of directories, under titles if there are several. -/
def ls (r : Request) : Effect :=
  r.withFlags "aArdFp1mRCxlUtSi" "" 2 fun f =>
    let operands := (if f.operands.isEmpty then [['.']] else f.operands).mergeSort octetsLe
    let operands := if f.has 'r' then operands.reverse else operands
    let faults := f.operands.filterMap fun operand =>
      match r.files.entry (r.path operand) with
      | .ok _ => none
      | .error fault =>
        some (r.naming (octets "cannot access " ++ inQuotes operand ++ octets ": " ++ reason fault))
    let present := operands.filter fun operand => r.files.contains (r.path operand)
    let (directories, plain) :=
      if f.has 'd' then ([], present) else present.partition r.isDirectory
    let sections := directories.flatMap (r.listings f 64)
    let isTitled := 1 < operands.length || f.has 'R'
    let titled (part : Octets × Octets) : Octets :=
      (if isTitled then part.1 ++ octets ":\n" else []) ++ part.2
    let names := rows f (plain.map (r.shownName f []))
    let parts := (if names.isEmpty then [] else [names]) ++ sections.map titled
    { chunks := [(true, unlines faults), (false, List.intercalate ['\n'] parts)]
      status := if faults.isEmpty then 0 else 2 }

/-- The paths from an operand downwards, each with its depth; at most `fuel` levels. -/
def pathsBelow (r : Request) : Nat → Nat → Octets → List (Nat × Octets)
  | 0, _, _ => []
  | fuel + 1, depth, path =>
    (depth, path) ::
      if r.isDirectory path then
        (r.namesIn path).flatMap fun name => r.pathsBelow fuel (depth + 1) (inDirectory path name)
      else []

/-- Whether a path satisfies a test of a search, if its name is that of one. -/
def testHolds? (r : Request) (depth : Nat) (path test value : Octets) : Option Bool :=
  let pattern : Field := value.map fun c => (c, false)
  match String.ofList test with
  | "-name" => some (pattern.accepts (lastComponent path))
  | "-path" => some (pattern.accepts path)
  | "-type" => some (r.isDirectory path == decide (value = ['d']))
  | "-maxdepth" => some (decide (depth ≤ Decimal.digitsValue value))
  | "-mindepth" => some (decide (Decimal.digitsValue value ≤ depth))
  | _ => none

/-- Whether a path satisfies the tests of a search. -/
def passesTests (r : Request) (depth : Nat) (path : Octets) : List Octets → Bool
  | ['!'] :: test :: value :: rest =>
    !(r.testHolds? depth path test value).getD false && r.passesTests depth path rest
  | test :: value :: rest =>
    match r.testHolds? depth path test value with
    | some holds => holds && r.passesTests depth path rest
    | none => r.passesTests depth path (value :: rest)
  | _ => true

/-- The paths below the operands that satisfy tests. -/
def find (r : Request) : Effect :=
  let isOperand (arg : Octets) : Bool := arg.head? ≠ some '-' && arg ≠ ['!']
  let operands := r.args.takeWhile isOperand
  let tests := r.args.dropWhile isOperand
  let found := (if operands.isEmpty then [['.']] else operands).map fun operand =>
    match r.files.entry (r.path operand) with
    | .ok _ =>
      (false, unlines ((r.pathsBelow 64 0 operand).filterMap fun (depth, path) =>
        if r.passesTests depth path tests then some path else none))
    | .error fault => (true, r.naming (inQuotes operand ++ octets ": " ++ reason fault) ++ ['\n'])
  { chunks := found, status := if found.any fun (isError, _) => isError then 1 else 0 }

/-! ## Making and removing -/

/-- The places above a place and the place itself. -/
def upTo (place : List String) : List (List String) :=
  (List.range place.length).map fun n => place.take (n + 1)

/-- Directories made along a path: from a place on, one for each component that is not there.  A
    component that is a file stops it; `passed` is the path up to the component at hand. -/
def makeAlong (r : Request) (operand : Octets) (passed : Octets) (here : Place) (w : Work) :
    List Octets → Work
  | [] => w
  | name :: rest =>
    let passed := passed ++ name
    let refuse (why : Octets) : Work :=
      w.fail (r.naming (octets "cannot create directory " ++
        inQuotes (withoutFinalSlashes passed) ++ octets ": " ++ why))
    let goOn (here : Place) (w : Work) : Work :=
      makeAlong r operand (passed ++ ['/']) here w rest
    if name.isEmpty || name = ['.'] then goOn here w
    else if name = ['.', '.'] then goOn (w.files.parent here) w
    else
      match here with
      | .inside place =>
        let below := place ++ [textOf name]
        match w.files.find below with
        | some .directory => goOn (.inside below) w
        | some (.file _) =>
          refuse (octets (if rest.all List.isEmpty then "File exists" else "Not a directory"))
        | none => goOn (.inside below) { w with files := w.files.set below .directory }
      | _ =>
        match w.files.below here (textOf name) with
        | some place => goOn place w
        | none => refuse (octets "Permission denied")

/-- Directories made. -/
def mkdir (r : Request) : Effect :=
  r.withFlags "pv" "m" 1 fun f =>
    if f.operands.isEmpty then r.missing "missing operand"
    else
      r.work f.operands fun w operand =>
        let refuse (why : Octets) : Work :=
          w.fail (r.naming (octets "cannot create directory " ++ inQuotes operand ++ octets ": " ++
            why))
        let path := withoutFinalSlashes operand
        if f.has 'p' then
          let here := if operand.head? = some '/' then w.files.top else r.here
          r.makeAlong operand [] here w (Text.pieces ['/'] operand)
        else
          match w.files.entry (r.path path), w.files.vacancy (r.path path) with
          | .ok _, _ => refuse (octets "File exists")
          | .error _, .ok place => { w with files := w.files.set place .directory }
          | .error _, .error fault => refuse (reason fault)

/-- Empty directories removed. -/
def rmdir (r : Request) : Effect :=
  r.withFlags "pv" "" 1 fun f =>
    if f.operands.isEmpty then r.missing "missing operand"
    else
      r.work f.operands fun w operand =>
        let refuse (why : Octets) : Work :=
          w.fail (r.naming (octets "failed to remove " ++ inQuotes operand ++ octets ": " ++ why))
        match w.files.entry (r.path operand), r.target w.files operand with
        | .error fault, _ | _, .error fault => refuse (reason fault)
        | .ok (.file _), _ => refuse (octets "Not a directory")
        | .ok .directory, .ok place =>
          if !(w.files.namesBelow (.inside place)).isEmpty then
            refuse (octets "Directory not empty")
          else if f.has 'p' then
            let removeEmpty (files : FileTree) (place : List String) : FileTree :=
              if (files.namesBelow (.inside place)).isEmpty then files.erase place else files
            { w with files := (upTo place).reverse.foldl removeEmpty w.files }
          else { w with files := w.files.erase place }

/-- Files made if they are not there. -/
def touch (r : Request) : Effect :=
  r.withFlags "camf" "drt" 1 fun f =>
    if f.operands.isEmpty then r.missing "missing file operand"
    else
      r.work f.operands fun w operand =>
        if w.files.contains (r.path operand) || f.has 'c' then w
        else
          match w.files.write (r.path operand) [] with
          | .ok files => { w with files }
          | .error fault =>
            w.fail (r.naming
              (octets "cannot touch " ++ inQuotes operand ++ octets ": " ++ reason fault))

/-- Files and directories removed. -/
def rm (r : Request) : Effect :=
  r.withFlags "rRfdvi" "" 1 fun f =>
    if f.operands.isEmpty then if f.has 'f' then {} else r.missing "missing operand"
    else
      r.work f.operands fun w operand =>
        let refuse (why : Octets) : Work :=
          w.fail (r.naming (octets "cannot remove " ++ inQuotes operand ++ octets ": " ++ why))
        let isDeep := f.has 'r' || f.has 'R'
        let isDots := lastComponent operand = ['.'] || lastComponent operand = ['.', '.']
        let told (files : FileTree) : Work :=
          let note := (false, octets "removed " ++ inQuotes operand ++ ['\n'])
          { w with files, chunks := w.chunks ++ if f.has 'v' then [note] else [] }
        match w.files.entry (r.path operand), r.target w.files operand with
        | .error fault, _ =>
          if f.has 'f' && fault = .missing (r.path operand) then w else refuse (reason fault)
        | .ok .directory, place =>
          if isDeep && isDots then
            w.fail (r.naming (octets "refusing to remove '.' or '..' directory: skipping " ++
              inQuotes operand))
          else
            match place with
            | .error fault => refuse (reason fault)
            | .ok place =>
              if isDeep then told (w.files.erase place)
              else if f.has 'd' then
                if (w.files.namesBelow (.inside place)).isEmpty then told (w.files.erase place)
                else refuse (octets "Directory not empty")
              else refuse (octets "Is a directory")
        | .ok (.file _), .ok place => told (w.files.erase place)
        | .ok (.file _), .error fault => refuse (reason fault)

/-! ## Copying and moving -/

/-- The tree with what stands at and below a place also at and below another one. -/
def graft (files : FileTree) (source target : List String) : FileTree :=
  (files.entries.filter fun (place, _) => source.isPrefixOf place).foldl
    (fun files (place, entry) => files.set (target ++ place.drop source.length) entry) files

/-- The operands of a utility that copies or moves: what goes where, one by one. -/
def journeys (r : Request) (operands : List Octets) :
    Except Effect (List (Octets × Octets)) :=
  match operands.reverse with
  | [] => .error (r.missing "missing file operand")
  | [only] =>
    let problem := octets "missing destination file operand after " ++ inQuotes only
    .error (.failure 1 (r.naming problem ++
      octets "\nTry '" ++ r.name ++ octets " --help' for more information."))
  | target :: sources =>
    let sources := sources.reverse
    if r.isDirectory target then
      .ok (sources.map fun source => (source, inDirectory target (lastComponent source)))
    else
      match sources with
      | [source] => .ok [(source, target)]
      | _ =>
        let why := match r.files.entry (r.path target) with
          | .ok _ => octets "Not a directory"
          | .error fault => reason fault
        .error (.failure 1 (r.naming (octets "target " ++ inQuotes target ++ octets ": " ++ why)))

/-- What goes wrong before anything is copied or moved. -/
def sourceFault (r : Request) (w : Work) (source target : Octets) : Option Octets :=
  match w.files.entry (r.path source), r.target w.files source, r.target w.files target with
  | .error fault, _, _ =>
    some (octets "cannot stat " ++ inQuotes source ++ octets ": " ++ reason fault)
  | .ok (.file _), .ok a, .ok b =>
    if a = b then
      some (inQuotes source ++ octets " and " ++ inQuotes target ++ octets " are the same file")
    else none
  | _, _, _ => none

/-- Files copied, and directories if asked for. -/
def cp (r : Request) : Effect :=
  r.withFlags "rRapfvn" "" 1 fun f =>
    match r.journeys f.operands with
    | .error effect => effect
    | .ok journeys =>
      (journeys.foldl
        (fun w (source, target) =>
          match r.sourceFault w source target, w.files.entry (r.path source) with
          | some message, _ => w.fail (r.naming message)
          | none, .error fault => w.fail (r.naming (reason fault))
          | none, .ok (.file bytes) =>
            match w.files.write (r.path target) bytes with
            | .ok files => { w with files }
            | .error fault =>
              w.fail (r.naming (octets "cannot create regular file " ++ inQuotes target ++
                octets ": " ++ reason fault))
          | none, .ok .directory =>
            if !(f.has 'r' || f.has 'R' || f.has 'a') then
              w.fail (r.naming (octets "-r not specified; omitting directory " ++ inQuotes source))
            else
              match r.target w.files source, r.target w.files target with
              | .ok a, .ok b =>
                if a.isPrefixOf b then
                  w.fail (r.naming (octets "cannot copy a directory, " ++ inQuotes source ++
                    octets ", into itself, " ++ inQuotes target))
                else { w with files := graft w.files a b }
              | .error fault, _ | _, .error fault =>
                w.fail (r.naming (octets "cannot create directory " ++ inQuotes target ++
                  octets ": " ++ reason fault)))
        ({ files := r.files } : Work)).effect

/-- Files and directories moved. -/
def mv (r : Request) : Effect :=
  r.withFlags "fvni" "" 1 fun f =>
    match r.journeys f.operands with
    | .error effect => effect
    | .ok journeys =>
      (journeys.foldl
        (fun w (source, target) =>
          match r.sourceFault w source target, r.target w.files source,
              r.target w.files target with
          | some message, _, _ => w.fail (r.naming message)
          | none, .ok a, .ok b =>
            match w.files.find a, w.files.find b with
            | some .directory, some (.file _) =>
              w.fail (r.naming (octets "cannot overwrite non-directory " ++ inQuotes target ++
                octets " with directory " ++ inQuotes source))
            | some .directory, found =>
              if a.isPrefixOf b then
                w.fail (r.naming (octets "cannot move " ++ inQuotes source ++
                  octets " to a subdirectory of itself, " ++ inQuotes target))
              else if found.isSome && !(w.files.namesBelow (.inside b)).isEmpty then
                w.fail (r.naming (octets "cannot overwrite " ++ inQuotes target ++
                  octets ": Directory not empty"))
              else { w with files := (graft w.files a b).erase a }
            | some (.file _), some .directory =>
              w.fail (r.naming (octets "cannot overwrite directory " ++ inQuotes target ++
                octets " with non-directory " ++ inQuotes source))
            | _, _ => { w with files := (graft w.files a b).erase a }
          | none, .error fault, _ | none, _, .error fault =>
            w.fail (r.naming (octets "cannot move " ++ inQuotes source ++ octets " to " ++
              inQuotes target ++ octets ": " ++ reason fault)))
        ({ files := r.files } : Work)).effect

/-- The input written to the output and to files. -/
def tee (r : Request) : Effect :=
  r.withFlags "ai" "" 1 fun f =>
    let w := f.operands.foldl
      (fun (w : Work) operand =>
        let before := if f.has 'a' then (w.files.read (r.path operand)).toOption.getD [] else []
        match w.files.write (r.path operand) (before ++ bytesOf r.input) with
        | .ok files => { w with files }
        | .error fault => w.fail (r.naming (operand ++ octets ": " ++ reason fault)))
      ({ files := r.files } : Work)
    { w.effect with chunks := w.chunks ++ [(false, r.input)], usesInput := true }

/-! ## Paths -/

/-- The last component of a path, without an ending if one is given and it is not all of it. -/
def basename (r : Request) : Effect :=
  match r.args with
  | [] => r.missing "missing operand"
  | ['-', 'a'] :: paths => .output (unlines (paths.map lastComponent))
  | [path] => .output (lastComponent path ++ ['\n'])
  | ['-', 's'] :: ending :: paths =>
    .output (unlines (paths.map fun path => strip ending (lastComponent path)))
  | [path, ending] => .output (strip ending (lastComponent path) ++ ['\n'])
  | _ :: _ :: extra :: _ =>
    .failure 1 (r.naming (octets "extra operand " ++ inQuotes extra) ++
      octets "\nTry 'basename --help' for more information.")
where
  /-- A name without an ending. -/
  strip (ending name : Octets) : Octets :=
    if ending.isSuffixOf name && ending ≠ name then name.take (name.length - ending.length)
    else name

/-- Paths without their last components. -/
def dirname (r : Request) : Effect :=
  if r.args.isEmpty then r.missing "missing operand" else .output (unlines (r.args.map frontOf))

end Request

end ArenaLisp.Shell
