import BuildDispatch.Decimal.Calculation
import BuildDispatch.Host.Regex

/-!
Reports on a text: rules that say for which of its records something is done, and what.  What is
done is said in a small language with variables, tables and functions.
-/

namespace BuildDispatch.Host.Report

open Decimal (Binary64)

/-- What joins two numbers to a third. -/
inductive Arithmetic where
  | plus | minus | times | over | remainder | power
  deriving DecidableEq

/-- How two values may compare. -/
inductive Comparison where
  | less | atMost | equal | unequal | atLeast | greater
  deriving DecidableEq

/-- The functions of the language. -/
inductive Function where
  | length | substr | index | split | sub | gsub | find | sprintf | lower | upper
  | truncate | root | exponential | logarithm | sine | cosine | angle | random | seed | close
  deriving DecidableEq

mutual

/-- An expression of the language. -/
inductive Expr where
  | number (n : Binary64)
  | text (b : Bytes)
  /-- A regular expression; by itself it asks whether it matches the record. -/
  | pattern (r : Regex)
  | target (t : Target)
  | assign (t : Target) (op : Option Arithmetic) (e : Expr)
  /-- Counts up or down by one; its value is the one before or behind the step. -/
  | count (t : Target) (up behind : Bool)
  | not (e : Expr)
  | negative (e : Expr)
  | positive (e : Expr)
  | both (a b : Expr)
  | either (a b : Expr)
  | choice (c a b : Expr)
  | arithmetic (op : Arithmetic) (a b : Expr)
  | compare (op : Comparison) (a b : Expr)
  | joined (a b : Expr)
  | matching (isInverse : Bool) (a r : Expr)
  | within (subscripts : List Expr) (table : Bytes)
  | call (name : Bytes) (args : List Expr)
  | builtin (f : Function) (args : List Expr)
  /-- Reads a record of the input or of a file. -/
  | read (t : Option Target) (file : Option Expr)

/-- What a value can be given to. -/
inductive Target where
  | variable (name : Bytes)
  | field (number : Expr)
  | entry (table : Bytes) (subscripts : List Expr)

end

/-- Where something is printed to. -/
inductive Aim where
  | output
  | file (e : Expr) (behind : Bool)

/-- A statement of the language. -/
inductive Statement where
  | evaluate (e : Expr)
  | print (args : List Expr) (aim : Aim)
  | printf (args : List Expr) (aim : Aim)
  | block (l : List Statement)
  | choose (c : Expr) (yes : Statement) (no : Option Statement)
  | loop (c : Expr) (body : Statement)
  | loopOnce (body : Statement) (c : Expr)
  | loopWith (first : Option Statement) (c : Option Expr) (step : Option Statement)
    (body : Statement)
  | forEach (name table : Bytes) (body : Statement)
  | erase (table : Bytes) (subscripts : List Expr)
  | next
  | stop (e : Option Expr)
  | give (e : Option Expr)
  | leave
  | again

/-- For which records a rule is. -/
inductive Occasion where
  | atStart
  | atEnd
  | always
  | on (e : Expr)
  /-- From a record on up to another one. -/
  | span (first last : Expr)

/-- A rule of a report; without a statement it prints the record. -/
structure Rule where
  occasion : Occasion
  action : Option Statement

/-- A function that a report defines. -/
structure Definition where
  name : Bytes
  parameters : List Bytes
  body : Statement

end Report

/-- A report. -/
structure Report where
  rules : List Report.Rule
  functions : List Report.Definition

end BuildDispatch.Host
