/-
This file holds the tokens of shell scripts: operators, words, and the words that have a meaning
of their own where a command may begin.
-/

import Bindery.Shell.Syntax

namespace Bindery.Shell

/-- A word that has a meaning of its own where a command may begin. -/
inductive Keyword where
  | bang
  | caseWord
  | doWord
  | doneWord
  | elifWord
  | elseWord
  | esacWord
  | fiWord
  | forWord
  | ifWord
  | inWord
  | thenWord
  | untilWord
  | whileWord
  | openBrace
  | closeBrace
deriving DecidableEq, Repr

/-- The spelling of each keyword. -/
def Keyword.table : List (Keyword × String) := [
  (.bang, "!"), (.caseWord, "case"), (.doWord, "do"), (.doneWord, "done"), (.elifWord, "elif"),
  (.elseWord, "else"), (.esacWord, "esac"), (.fiWord, "fi"), (.forWord, "for"), (.ifWord, "if"),
  (.inWord, "in"), (.thenWord, "then"), (.untilWord, "until"), (.whileWord, "while"),
  (.openBrace, "\x7b"), (.closeBrace, "\x7d")]

/-- The spelling of a keyword. -/
def Keyword.spelling (keyword : Keyword) : String := (table.lookup keyword).getD ""

/-- The keyword of a spelling. -/
def Keyword.ofSpelling? (text : List Char) : Option Keyword :=
  (table.find? fun entry => entry.2.toList = text).map Prod.fst

/-- A token. The word or redirection itself is kept by the reader. -/
inductive Token where
  | ending
  | newline
  | semicolon
  | ampersand
  | and
  | or
  | pipe
  | open
  | close
  | armEnd
  | redirect
  | word
  | keyword (key : Keyword)
deriving DecidableEq, Repr

/-- How a token is named in a complaint. -/
def Token.shown : Token → String
  | .ending => "end of file"
  | .newline => "newline"
  | .semicolon => "\";\""
  | .ampersand => "\"&\""
  | .and => "\"&&\""
  | .or => "\"||\""
  | .pipe => "\"|\""
  | .open => "\"(\""
  | .close => "\")\""
  | .armEnd => "\";;\""
  | .redirect => "redirection"
  | .word => "word"
  | .keyword key => "\"" ++ key.spelling ++ "\""

/-- Whether a list of commands ends before a token. -/
def Token.endsList : Token → Bool
  | .ending | .close | .armEnd => true
  | .keyword key =>
    [Keyword.doWord, .doneWord, .elifWord, .elseWord, .esacWord, .fiWord, .thenWord,
      .closeBrace].contains key
  | _ => false

/-- What a script cannot be read for. -/
inductive Misreading where
  /-- A token stands where it must not. -/
  | unexpected (token : Token) (expected : Option Token)
  | loopVariable
  | functionName
  | streamNumber
  | openQuote
  | openBrace
  | openSum
  | openBackquote
deriving DecidableEq, Repr

/-- The words for what a script cannot be read for. -/
def Misreading.message : Misreading → String
  | .unexpected token none => token.shown ++ " unexpected"
  | .unexpected token (some expected) =>
    token.shown ++ " unexpected (expecting " ++ expected.shown ++ ")"
  | .loopVariable => "Bad for loop variable"
  | .functionName => "Bad function name"
  | .streamNumber => "Bad fd number"
  | .openQuote => "Unterminated quoted string"
  | .openBrace => "Missing '\x7d'"
  | .openSum => "Missing '))'"
  | .openBackquote => "EOF in backquote substitution"

/-- A complaint about a line of a script. -/
structure SyntaxFault where
  line : Nat
  misreading : Misreading
deriving DecidableEq, Repr

/-- The words for a complaint, without the line. -/
def SyntaxFault.message (fault : SyntaxFault) : String :=
  "Syntax error: " ++ fault.misreading.message

end Bindery.Shell
