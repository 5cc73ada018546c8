/-! # Verbs of the protocol

A verb names what a request asks for. The verbs that a description can declare
operations for have names of their own; any other token is a verb that no
operation answers to. -/

namespace RestModel

inductive Verb where
  | get
  | post
  | put
  | patch
  | delete
  | head
  | options
  | trace
  | other (token : String)
  deriving Repr, DecidableEq, Inhabited

namespace Verb

def name : Verb → String
  | .get => "GET"
  | .post => "POST"
  | .put => "PUT"
  | .patch => "PATCH"
  | .delete => "DELETE"
  | .head => "HEAD"
  | .options => "OPTIONS"
  | .trace => "TRACE"
  | .other token => token

/-- The verb of a token. Tokens are sensitive to case. -/
def ofName : String → Verb
  | "GET" => .get
  | "POST" => .post
  | "PUT" => .put
  | "PATCH" => .patch
  | "DELETE" => .delete
  | "HEAD" => .head
  | "OPTIONS" => .options
  | "TRACE" => .trace
  | token => .other token

/-- The verbs that a directive may name, in any case. -/
def annotatable : List Verb := [.get, .post, .put, .patch, .delete, .head, .options]

/-- The verb that a directive names, in any case. -/
def ofDirective? (name : String) : Option Verb :=
  annotatable.find? fun verb => verb.name == name.map Char.toUpper

def route (verb : Verb) (path : String) : String := verb.name ++ " " ++ path

end Verb

end RestModel
