import Confine.Host.Shell.Command

/-!
Words, blanks and operators of the shell language, read from the front of a text.
-/

namespace Confine.Host.Shell

/-- What may turn out not to be in the language. -/
abbrev Fallible := Except Fault

/-- The characters that end a word unless they are quoted. -/
def isMeta (c : Char) : Bool := " \t\n;&|<>()".toList.contains c

/-- Skips blanks, joined lines and a comment. -/
def skipBlanks : List Char → List Char
  | '\\' :: '\n' :: cs => skipBlanks cs
  | ' ' :: cs | '\t' :: cs => skipBlanks cs
  | '#' :: cs => cs.dropWhile (· ≠ '\n')
  | cs => cs

/-- What a scan for a closing parenthesis is inside of. -/
inductive Enclosure where
  | parenthesis
  | single
  | double
  /-- Behind a backslash. -/
  | escape
  /-- Between the dollar and the parenthesis of a substitution in double quotes. -/
  | opening
deriving DecidableEq

namespace Enclosure

/-- The enclosures behind a character, from the innermost one outwards. -/
def next (c : Char) (rest : List Char) : List Enclosure → List Enclosure
  | [] => []
  | .single :: outer => if c = '\'' then outer else .single :: outer
  | .escape :: outer => outer
  | .opening :: outer => .parenthesis :: outer
  | .double :: outer =>
    if c = '\\' then .escape :: .double :: outer
    else if c = '\x22' then outer
    else if c = '$' && rest.head? = some '(' then .opening :: .double :: outer
    else .double :: outer
  | .parenthesis :: outer =>
    if c = '\\' then .escape :: .parenthesis :: outer
    else if c = '\'' then .single :: .parenthesis :: outer
    else if c = '\x22' then .double :: .parenthesis :: outer
    else if c = '(' then .parenthesis :: .parenthesis :: outer
    else if c = ')' then outer
    else .parenthesis :: outer

end Enclosure

/-- The text up to the parenthesis that closes the outermost enclosure, and the text behind it. -/
def untilClose (inside : List Enclosure) : List Char → Option (List Char × List Char)
  | [] => none
  | c :: cs =>
    if Enclosure.next c cs inside = [] then some ([], cs)
    else (untilClose (Enclosure.next c cs inside) cs).map fun (body, rest) => (c :: body, rest)

/-- The text up to a closing backquote, freed of the backslashes that protect. -/
def untilBackquote : List Char → Option (List Char × List Char)
  | [] => none
  | '\x60' :: cs => some ([], cs)
  | '\\' :: c :: cs =>
    (untilBackquote cs).map fun (body, rest) =>
      (if c = '\x60' || c = '\\' || c = '$' then c :: body else '\\' :: c :: body, rest)
  | c :: cs => (untilBackquote cs).map fun (body, rest) => (c :: body, rest)

/-- The name of a parameter: a variable, a number or a special one. With `braced` a number may have
several digits. -/
def parameterName? (braced : Bool) : List Char → Option (String × List Char)
  | [] => none
  | c :: cs =>
    if isNameStart c then
      some (String.ofList (c :: cs.takeWhile isNameChar), cs.dropWhile isNameChar)
    else if c.isDigit then
      if braced then
        some (String.ofList (c :: cs.takeWhile Char.isDigit), cs.dropWhile Char.isDigit)
      else some (String.ofList [c], cs)
    else if "@*#?-$!".toList.contains c then some (String.ofList [c], cs)
    else none

/-- The operator of a parameter expansion. -/
def parameterOp? : List Char → Option (ParameterOp × Bool × List Char)
  | ':' :: '-' :: cs => some (.orElse, true, cs)
  | ':' :: '=' :: cs => some (.orAssign, true, cs)
  | ':' :: '?' :: cs => some (.orFail, true, cs)
  | ':' :: '+' :: cs => some (.ifSet, true, cs)
  | '-' :: cs => some (.orElse, false, cs)
  | '=' :: cs => some (.orAssign, false, cs)
  | '?' :: cs => some (.orFail, false, cs)
  | '+' :: cs => some (.ifSet, false, cs)
  | '%' :: '%' :: cs => some (.trim true true, false, cs)
  | '%' :: cs => some (.trim true false, false, cs)
  | '#' :: '#' :: cs => some (.trim false true, false, cs)
  | '#' :: cs => some (.trim false false, false, cs)
  | _ => none

/-- Where parts are read. -/
inductive Setting where
  /-- A word of a command. -/
  | bare
  /-- Between double quotes. -/
  | double
  /-- The word in a parameter expansion. -/
  | braced (quoted : Bool)
  /-- A whole text in which only dollars, backquotes and backslashes count. -/
  | whole
deriving DecidableEq

namespace Setting

/-- Whether what is read counts as quoted. -/
def quoted : Setting → Bool
  | bare => false
  | braced q => q
  | double | whole => true

/-- Whether a character ends the setting. -/
def endsAt : Setting → Char → Bool
  | bare, c => isMeta c
  | double, c => c = '\x22'
  | braced _, c => c = '\x7d'
  | whole, _ => false

/-- The fault of a text that ends in the setting. -/
def atEnd? : Setting → Option FaultKind
  | double | braced true => some .unterminatedQuote
  | braced false => some (.missing "\x7d")
  | bare | whole => none

/-- Whether a backslash takes away the meaning of a character. -/
def escapes : Setting → Char → Bool
  | bare, _ | braced false, _ => true
  | double, c => "$\x60\"\\".toList.contains c
  | braced true, c => "$\x60\"\\\x7d".toList.contains c
  | whole, c => "$\x60\\".toList.contains c

end Setting

/-- Puts text in front of a word. -/
def addText (chars : List Char) (quoted : Bool) : Word → Word
  | .text more q :: parts =>
    if q = quoted then .text (chars ++ more) q :: parts
    else .text chars quoted :: .text more q :: parts
  | parts => .text chars quoted :: parts

/-- The fault of a text that ends too early. -/
def unexpectedEnd : Fault := ⟨.unexpected true "end of file" none, 0⟩

/-- The fault of a parameter expansion that cannot go on with a text. -/
def badExpansion (quoted : Bool) (cs : List Char) : Fault :=
  if cs.isEmpty then ⟨if quoted then .unterminatedQuote else .missing "\x7d", 0⟩
  else ⟨.badSubstitution, cs.count '\n'⟩

mutual

/-- Reads parts up to the end of their setting. -/
def parts : Nat → Setting → List Char → Fallible (Word × List Char)
  | 0, _, _ => .error unexpectedEnd
  | _, setting, [] =>
    match setting.atEnd? with
    | some kind => .error ⟨kind, 0⟩
    | none => .ok ([], [])
  | n + 1, setting, c :: cs =>
    if setting.endsAt c then .ok ([], c :: cs)
    else
      let andText (chars : List Char) (quoted : Bool) (rest : List Char) :
          Fallible (Word × List Char) := do
        let (word, rest) ← parts n setting rest
        return (addText chars quoted word, rest)
      match c with
      | '\\' =>
        match cs with
        | '\n' :: rest => parts n setting rest
        | d :: rest =>
          if setting.escapes d then andText [d] true rest else andText ['\\'] setting.quoted cs
        | [] => andText ['\\'] true []
      | '\'' =>
        if setting.quoted then andText ['\''] true cs
        else if cs.contains '\'' then
          andText (cs.takeWhile (· ≠ '\'')) true ((cs.dropWhile (· ≠ '\'')).drop 1)
        else .error ⟨.unterminatedQuote, 0⟩
      | '\x22' =>
        if setting = .whole then andText ['\x22'] true cs
        else do
          let (inner, rest) ← parts n .double cs
          let (word, rest) ← parts n setting (rest.drop 1)
          return (.text [] true :: inner ++ word, rest)
      | '\x60' =>
        match untilBackquote cs with
        | none => .error ⟨.unterminatedBackquote, 0⟩
        | some (source, rest) => do
          let (word, rest) ← parts n setting rest
          return (.command source setting.quoted :: word, rest)
      | '$' => do
        match ← dollar n setting.quoted cs with
        | (some part, rest) =>
          let (word, rest) ← parts n setting rest
          return (part :: word, rest)
        | (none, rest) => andText ['$'] setting.quoted rest
      | _ => andText [c] setting.quoted cs

/-- Reads what follows a dollar; none if the dollar stands for itself. -/
def dollar : Nat → Bool → List Char → Fallible (Option Part × List Char)
  | 0, _, _ => .error unexpectedEnd
  | n + 1, quoted, '(' :: cs =>
    match cs with
    | '(' :: inner =>
      match untilClose [.parenthesis] inner with
      | some (body, ')' :: rest) => do
        let (word, _) ← parts n .whole body
        return (some (.arithmetic word quoted), rest)
      | _ => .error ⟨.missing "))", 0⟩
    | _ =>
      match untilClose [.parenthesis] cs with
      | some (source, rest) => .ok (some (.command source quoted), rest)
      | none => .error ⟨.unexpected true "end of file" (some "\x22)\x22"), 0⟩
  | n + 1, quoted, '\x7b' :: cs =>
    let closed (part : Part) : List Char → Fallible (Option Part × List Char)
      | '\x7d' :: rest => .ok (some part, rest)
      | rest => .error (badExpansion quoted rest)
    let lengthOf : Option (Fallible (Option Part × List Char)) :=
      match cs with
      | '#' :: more =>
        match parameterName? true more with
        | some (name, '\x7d' :: rest) => some (.ok (some (.length name quoted), rest))
        | _ => none
      | _ => none
    match lengthOf with
    | some r => r
    | none =>
      match parameterName? true cs with
      | none => .error (badExpansion quoted cs)
      | some (name, rest) =>
        match parameterOp? rest with
        | none => closed (.parameter name quoted) rest
        | some (op, nonempty, rest) => do
          let isTrim := match op with
            | .trim .. => true
            | _ => false
          let (word, rest) ← parts n (.braced (quoted && !isTrim)) rest
          closed (.operate name op nonempty word quoted) rest
  | _ + 1, quoted, cs =>
    match parameterName? false cs with
    | some (name, rest) => .ok (some (.parameter name quoted), rest)
    | none => .ok (none, cs)

end

/-- Reads parts with enough fuel for the text. -/
def partsOf (setting : Setting) (cs : List Char) : Fallible (Word × List Char) :=
  parts (2 * cs.length + 4) setting cs

/-- Reads one word; it may be empty. -/
def readWord (cs : List Char) : Fallible (Word × List Char) := partsOf .bare cs

/-- The text of a word with its quotes taken off; what is to be put in is left out. -/
def Word.literal (w : Word) : List Char :=
  w.flatMap fun
    | .text chars _ => chars
    | _ => []

/-- Whether any part of a word is quoted. -/
def Word.anyQuoted (w : Word) : Bool :=
  w.any fun
    | .text _ q => q
    | _ => false

/-- The operators, the longer ones first. -/
def operators : List String :=
  ["&&", "||", ";;", "<<-", "<<", "<&", "<>", "<", ">>", ">&", ">|", ">", "&", "|", ";", "(", ")"]

/-- The operator at the front of a text. -/
def operator? (cs : List Char) : Option (String × List Char) :=
  (operators.find? fun op => op.toList.isPrefixOf cs).map fun op => (op, cs.drop op.length)

/-- The descriptor and the kind of a redirection by its operator. -/
def redirectKind? : String → Option (Nat × RedirectKind)
  | "<" => some (0, .input)
  | ">" | ">|" => some (1, .output)
  | ">>" => some (1, .append)
  | "<>" => some (0, .inputOutput)
  | "<&" => some (0, .duplicate)
  | ">&" => some (1, .duplicate)
  | "<<" | "<<-" => some (0, .here)
  | _ => none

/-- The digit that stands right in front of a redirection, if there is one. -/
def redirectNumber : List Char → List Char
  | d :: c :: _ => if d.isDigit && (c = '<' || c = '>') then [d] else []
  | _ => []

/-- The words that have a meaning of their own at the start of a command. -/
def reservedWords : List String :=
  ["!", "case", "do", "done", "elif", "else", "esac", "fi", "for", "if", "in", "then", "until",
    "while", "\x7b", "\x7d"]

inductive Token where
  | endOfFile
  | newline
  | operator (op : String)
  | redirection
  | reserved (word : String)
  | word
deriving DecidableEq

namespace Token

/-- The length of a token that has only one form. -/
def length : Token → Nat
  | newline => 1
  | operator op => op.length
  | reserved name => name.length
  | _ => 0

/-- The name of a token for a fault. -/
def name : Token → String
  | endOfFile => "end of file"
  | newline => "newline"
  | operator op => "\x22" ++ op ++ "\x22"
  | redirection => "redirection"
  | reserved name => "\x22" ++ name ++ "\x22"
  | word => "word"

/-- Whether a list of commands ends in front of a token. -/
def endsList : Token → Bool
  | endOfFile => true
  | operator op => op = ")" || op = ";;"
  | reserved name => ["do", "done", "elif", "else", "esac", "fi", "then", "\x7d"].contains name
  | _ => false

end Token

/-- The token at the front of a text that starts with no blank. -/
def front (cs : List Char) : Token :=
  match cs with
  | [] => .endOfFile
  | '\n' :: _ => .newline
  | _ =>
    if !(redirectNumber cs).isEmpty then .redirection
    else
      match operator? cs with
      | some (op, _) => if (redirectKind? op).isSome then .redirection else .operator op
      | none =>
        let plain := String.ofList (cs.takeWhile fun c => !isMeta c)
        if reservedWords.contains plain then .reserved plain else .word

end Confine.Host.Shell
