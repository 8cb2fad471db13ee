import LiteralRegex.Flavor.Basic

/-!
# Notices

What an operation tells beside its result, and the log record that says it.

A record knows its place, which is the line of the program's text that makes it. Places move with
every edit of the program and say nothing about what it does.
-/

namespace LiteralRegex

/-- How much detail a record belongs to. -/
inductive LogLevel where
  | debug
  | trace
deriving DecidableEq

/-- The level as a record shows it. -/
def LogLevel.name : LogLevel → String
  | debug => "DEBUG"
  | trace => "TRACE"

/-- One record of a log. -/
structure LogRecord where
  level : LogLevel
  /-- The part of the program that speaks. -/
  target : String
  /-- The line in the text of that part where the record is made, if it is known. -/
  place : Option Nat
  message : String
deriving DecidableEq

/-- The record as a line of a log, without the line break. -/
def LogRecord.line (r : LogRecord) : String :=
  match r.place with
  | some place =>
    "[" ++ r.level.name ++ "] " ++ r.target ++ ":" ++ toString place ++ ": " ++ r.message
  | none => "[" ++ r.level.name ++ "] " ++ r.target ++ ": " ++ r.message

/-- The line of a log that leaves places out. -/
def LogRecord.lineWithoutPlace (r : LogRecord) : String := { r with place := none }.line

/-- Something worth telling about an operation that goes on. -/
inductive Notice where
  /-- No flavor was given and the default is used. -/
  | defaultUsed (flavor : Flavor)
  /-- All of the `count` alternatives are single characters. -/
  | singleCharacters (count : Nat)
  /-- The spans fit the text, which has `length` characters. -/
  | masking (spans length : Nat)
deriving DecidableEq

/-- The log record for a notice. -/
def Notice.record : Notice → LogRecord
  | defaultUsed flavor =>
    ⟨.trace, "regex_toolkit::config", some 43, "no flavor given, using default " ++ flavor.name⟩
  | singleCharacters count =>
    ⟨.debug, "regex_toolkit::engine::alternation", some 29,
      "all " ++ toString count
        ++ " alternatives are single characters; make_exp gives a shorter expression"⟩
  | masking spans length =>
    ⟨.trace, "regex_toolkit::utils::mask", some 129,
      "masking " ++ toString spans ++ " spans in text of " ++ toString length ++ " chars"⟩

end LiteralRegex
