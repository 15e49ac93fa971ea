import PubSubTrials.Programs.Records.Value
import PubSubTrials.Text.Regex

/-!
# Scripts for records

A script is a row of rules, each with a condition on records and what is done with those that meet
it, and of functions.
-/

namespace PubSubTrials.Records

/-- Arithmetic on two numbers. -/
inductive Arithmetic where
  | add
  | subtract
  | multiply
  | divide
  | remainder
  | power
  deriving DecidableEq, Repr

/-- Comparisons of two values. -/
inductive Comparison where
  | less
  | notMore
  | equal
  | different
  | more
  | notLess
  deriving DecidableEq, Repr

/-- An expression. -/
inductive Expr where
  | number (quantity : Decimal.Quantity)
  | text (octets : Octets)
  /-- Whether the record matches. -/
  | pattern (pattern : Regex.Pattern)
  | variable_ (name : String)
  | field (number : Expr)
  | element (name : String) (subscripts : List Expr)
  | assign (operator : Option Arithmetic) (target value : Expr)
  /-- Change a number by one; the value is that after it or that before it. -/
  | step (target : Expr) (isUp isBefore : Bool)
  | choose (condition yes no : Expr)
  | either (left right : Expr)
  | both (left right : Expr)
  | isKey (subscripts : List Expr) (name : String)
  | matching (negated : Bool) (text pattern : Expr)
  | compare (comparison : Comparison) (left right : Expr)
  | join (left right : Expr)
  | calculate (operator : Arithmetic) (left right : Expr)
  | negative (inner : Expr)
  | positive (inner : Expr)
  | not (inner : Expr)
  /-- Expressions in parentheses. -/
  | group (inner : List Expr)
  | call (name : String) (arguments : List Expr)
  /-- A function that every script has; it may be named without parentheses. -/
  | builtIn (name : String) (arguments : Option (List Expr))
  /-- The next record. -/
  | nextRecord (target : Option Expr)
  /-- The next record of a file. -/
  | fromFile (target : Option Expr) (file : Expr)
  /-- The next record that a command writes. -/
  | fromCommand (target : Option Expr) (command : Expr)
  deriving Inhabited

/-- Where a script writes. -/
inductive Target where
  | file (name : Expr)
  | fileEnd (name : Expr)
  | command (command : Expr)

/-- A statement. -/
inductive Statement where
  | block (statements : List Statement)
  | condition (condition : Expr) (yes : Statement) (no : Option Statement)
  | whileTrue (condition : Expr) (body : Statement)
  | doWhile (body : Statement) (condition : Expr)
  | forLoop (start : Statement) (condition : Option Expr) (step body : Statement)
  | forKeys (name array : String) (body : Statement)
  | expr (expr : Expr)
  | print (values : List Expr) (target : Option Target)
  | printf (values : List Expr) (target : Option Target)
  | next
  | nextFile
  | exit (status : Option Expr)
  | return_ (value : Option Expr)
  | break_
  | continue_
  /-- Remove an element, or all of an array. -/
  | remove (name : String) (subscripts : Option (List Expr))
  deriving Inhabited

/-- When a rule applies. -/
inductive Condition where
  | start
  | finish
  | always
  | when (expr : Expr)
  | range (first last : Expr)

/-- A rule; without a statement the record is printed. -/
structure Rule where
  condition : Condition
  action : Option Statement

/-- A function of a script. -/
structure Function where
  name : String
  parameters : List String
  body : Statement

/-- The rules of a script, with its functions. -/
structure RuleSet where
  rules : List Rule
  functions : List Function

end PubSubTrials.Records
