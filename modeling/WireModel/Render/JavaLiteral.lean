/-!
Java string literals, and the check that brackets outside of them are balanced.
-/

namespace WireModel.Render

/-- One character inside a Java string literal. -/
def javaEscaped (c : Char) : List Char :=
  if c = '\\' then ['\\', '\\']
  else if c = '"' then ['\\', '"']
  else if c = '\n' then ['\\', 'n']
  else [c]

def javaString (text : String) : String :=
  String.ofList ('"' :: text.toList.flatMap javaEscaped ++ ['"'])

/-- Where a scan of source text stands: in code, in a literal, or behind a backslash in a
literal. -/
inductive ScanMode where
  | code
  | literal
  | escaped
  deriving DecidableEq, Repr

/-- The bracket that a closing bracket needs. -/
def openerOf? : Char → Option Char
  | '}' => some '{'
  | ')' => some '('
  | _ => none

/-- Brackets outside literals are balanced in the rest of a text, given the open ones so far. -/
def balancedFrom : ScanMode → List Char → List Char → Bool
  | mode, stack, [] => stack.isEmpty && mode == .code
  | .escaped, stack, _ :: rest => balancedFrom .literal stack rest
  | .literal, stack, c :: rest =>
    if c = '\\' then balancedFrom .escaped stack rest
    else if c = '"' then balancedFrom .code stack rest
    else balancedFrom .literal stack rest
  | .code, stack, c :: rest =>
    if c = '"' then balancedFrom .literal stack rest
    else if c = '{' || c = '(' then balancedFrom .code (c :: stack) rest
    else
      match openerOf? c with
      | none => balancedFrom .code stack rest
      | some opener =>
        match stack with
        | top :: stack => if top = opener then balancedFrom .code stack rest else false
        | [] => false

/-- Braces and parentheses outside string literals are balanced, and every literal ends. -/
def isBalanced (code : String) : Bool :=
  balancedFrom .code [] code.toList

end WireModel.Render
