import RestModel.Directive.Reader
import RestModel.Directive.Registry
import RestModel.Lint.Basic
import RestModel.Resource.Descriptor

/-! # What directives declare

Each directive is read on its own, against a vocabulary of registered markers.
Reading it yields findings and, unless it is at fault or of no concern, a
declaration about the resource it is attached to. -/

namespace RestModel

structure Vocabulary where
  name : String
  registry : Registry
  defaultWait : Wait

/-- A value and the findings on the way to it. -/
structure Reading (α : Type) where
  value : α
  lints : List Lint

inductive Declaration where
  | skip (skipped : Bool)
  | operations (set : OperationSet)
  | extraMethods (methods : List ExtraMethod)
  | requestUrl (url : RouteOverride)
  | responseUrl (url : RouteOverride)
  | details (path : String)
  | upsert (path : String)
  deriving Repr, DecidableEq

namespace Directive

/-- Read a directive of a vocabulary. Texts of other vocabularies are passed
over; a text that starts like a directive of this one but is none is an error. -/
def readOwn (vocabulary text location : String) : Reading (Option Directive) :=
  match ofText text with
  | .ok directive =>
      if directive.vocabulary = vocabulary then ⟨some directive, []⟩ else ⟨none, []⟩
  | .error problem =>
      if Text.beginsWith ("+" ++ vocabulary ++ ":") (Text.trimStart text) then
        ⟨none, [.error location .malformedDirective problem.message]⟩
      else
        ⟨none, []⟩

/-- The wait that the option of a directive names, with the default in place of
one that is not supported. -/
def optionWait (directive : Directive) (defaultWait : Wait) (location : String) :
    Reading (Option Wait) :=
  match directive.option with
  | none => ⟨none, []⟩
  | some option =>
      if option.name = "wait" then
        match Wait.ofLiteral? option.value with
        | some wait => ⟨some wait, []⟩
        | none =>
            let message := "`" ++ directive.text ++ "` uses unsupported wait timeout `" ++
              option.value ++ "`; using " ++ defaultWait.literal
            let literals := Text.join ", " (Wait.supported.map (·.literal))
            ⟨some defaultWait, [(Lint.warning location .unsupportedWait message).suggesting
              ("Use one of " ++ literals)]⟩
      else
        let message := "`" ++ directive.text ++ "` has unknown option `" ++ option.name ++ "`"
        ⟨none, [.warning location .unknownOption message]⟩

/-- The methods that a directive declares on a path, one for each verb. -/
def extraMethods (directive : Directive) (path : String) (defaultWait : Wait)
    (location : String) : Reading (List ExtraMethod) :=
  match directive.verbs with
  | .error problem => ⟨[], [.error location .unsupportedVerb problem.message]⟩
  | .ok verbs =>
      let named := directive.optionWait defaultWait location
      let wait := match named.value with
        | some wait => some wait
        | none => if directive.feature = .asyncExtraMethod then some defaultWait else none
      ⟨verbs.map fun verb => ⟨verb, path, wait, directive.text⟩, named.lints⟩

def operationLetters (directive : Directive) : List Operation :=
  (directive.arguments.getD "").toList.filterMap Operation.ofLetter?

def letterLints (directive : Directive) (location : String) : List Lint :=
  ((directive.arguments.getD "").toList.filter fun letter =>
      (Operation.ofLetter? letter).isNone).map fun letter =>
    .error location .unknownOperationLetter
      ("`" ++ directive.text ++ "` uses unknown operation letter `" ++ letter.toString ++ "`")

def override (directive : Directive) (path location : String) :
    Reading (Option RouteOverride) :=
  match directive.verbs with
  | .ok [verb] => ⟨some ⟨verb, path, directive.text⟩, []⟩
  | .ok _ =>
      ⟨none, [.error location .unsupportedVerb
        ("`" ++ directive.text ++ "` must name exactly one verb")]⟩
  | .error problem => ⟨none, [.error location .unsupportedVerb problem.message]⟩

end Directive

/-- Put the path of a package before a path, unless the path starts with it. -/
def withBasePath (basePath : Option String) (path : String) : String :=
  match basePath with
  | none => path
  | some base =>
      if Text.beginsWith base path then
        path
      else
        String.ofList (base.toList.reverse.dropWhile (· == '/')).reverse ++ path

namespace Declaration

/-- What a directive with a payload declares on a path. -/
def ofPath (directive : Directive) (path : String) (defaultWait : Wait) (location : String) :
    Reading (Option Declaration) :=
  match directive.feature with
  | .operations =>
      ⟨some (.operations (.of directive.operationLetters path directive.text)),
        directive.letterLints location⟩
  | .extraMethod | .asyncExtraMethod =>
      let methods := directive.extraMethods path defaultWait location
      ⟨some (.extraMethods methods.value), methods.lints⟩
  | .requestUrl =>
      let url := directive.override path location
      ⟨url.value.map .requestUrl, url.lints⟩
  | .responseUrl =>
      let url := directive.override path location
      ⟨url.value.map .responseUrl, url.lints⟩
  | .details => ⟨some (.details path), []⟩
  | .upsert => ⟨some (.upsert path), []⟩
  | .basePath | .skip | .other _ => ⟨none, []⟩

def ofDirective (directive : Directive) (definition : Marker)
    (basePath : Option String) (defaultWait : Wait) (location : String) :
    Reading (Option Declaration) :=
  if directive.feature = .skip then
    match definition.readPayload directive.payload with
    | .ok (.bool false) => ⟨some (.skip false), []⟩
    | .ok _ => ⟨some (.skip true), []⟩
    | .error problem => ⟨none, [.error location .invalidPayload problem.message]⟩
  else
    match directive.requirePayload with
    | .error problem => ⟨none, [.error location .missingPayload problem.message]⟩
    | .ok payload => ofPath directive (withBasePath basePath payload) defaultWait location

def ofText (vocabulary : Vocabulary) (basePath : Option String) (text location : String) :
    Reading (Option Declaration) :=
  match Directive.readOwn vocabulary.name text location with
  | ⟨none, lints⟩ => ⟨none, lints⟩
  | ⟨some directive, lints⟩ =>
      match vocabulary.registry.lookup? directive.text .type with
      | none => ⟨none, lints⟩
      | some definition =>
          let reading :=
            ofDirective directive definition basePath vocabulary.defaultWait location
          ⟨reading.value, lints ++ reading.lints⟩

end Declaration

end RestModel
