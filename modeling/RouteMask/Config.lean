import RouteMask.Table
import RouteMask.Value

/-! # Configurations

A configuration describes a handler table as a dynamic value: a record with the handlers, a base
URL and a fallback.  `Config.parse` checks its shape, `Config.write` writes a configuration in that
shape again.

* Every handler has an action and exactly one of a path and a regular expression.
* `ConfigError.message` is the wording of what is wrong with a value. -/

namespace RouteMask

/-- The kinds of masks in a configuration. -/
inductive MaskKind where
  | path
  | regex
deriving DecidableEq

/-- The name of the field that holds the mask. -/
def MaskKind.field : MaskKind → String
  | .path => "path"
  | .regex => "regex"

/-- What is wrong with a value.  The type that was found is named. -/
inductive ConfigError where
  | notRecord (found : String)
  | noHandlers
  | handlersNotList (found : String)
  | baseNotText (found : String)
  | handlerNotRecord (found : String)
  | noAction
  | twoMasks
  | noMask
  | maskNotText (kind : MaskKind) (found : String)
  | methodNotText (found : String)
deriving DecidableEq

/-- The wording of an error. -/
def ConfigError.message : ConfigError → String
  | .notRecord found => s!"expected dict, got {found}"
  | .noHandlers => "missing required field 'handlers'"
  | .handlersNotList found => s!"'handlers' must be a list, got {found}"
  | .baseNotText found => s!"'base_url' must be a string, got {found}"
  | .handlerNotRecord found => s!"handler must be a dict, got {found}"
  | .noAction => "handler missing required field 'action'"
  | .twoMasks => "exactly one of 'path' or 'regex' must be set, got both"
  | .noMask => "one of 'path' or 'regex' is required"
  | .maskNotText kind found => s!"handler {kind.field} must be a string, got {found}"
  | .methodNotText found => s!"handler method must be a string, got {found}"

/-- A handler of a configuration. -/
structure HandlerSpec where
  kind : MaskKind
  mask : Text
  action : Value
  method : Option Text

/-- A configuration.  The fallback `null` is no fallback. -/
structure Config where
  handlers : List HandlerSpec
  base : Option Text
  fallback : Value

namespace Config

/-- A field of a record. -/
def field? (name : String) (fields : List (Text × Value)) : Option Value :=
  Value.field? name.toList fields

/-- A field that holds a text or nothing. -/
def optionalText (name : String) (fields : List (Text × Value)) (fail : String → ConfigError) :
    Except ConfigError (Option Text) :=
  match field? name fields with
  | none | some .null => .ok none
  | some (.text s) => .ok (some s)
  | some other => .error (fail other.typeName)

/-- The kind of a handler's mask and the field that holds it. -/
def maskField (fields : List (Text × Value)) : Except ConfigError (MaskKind × Value) :=
  match field? "path" fields, field? "regex" fields with
  | some _, some _ => .error .twoMasks
  | none, none => .error .noMask
  | some v, none => .ok (.path, v)
  | none, some v => .ok (.regex, v)

/-- Read a handler. -/
def parseHandler : Value → Except ConfigError HandlerSpec
  | .record fields =>
    match field? "action" fields with
    | none => .error .noAction
    | some action => do
      match ← maskField fields with
      | (kind, .text mask) =>
        let method ← optionalText "method" fields .methodNotText
        .ok ⟨kind, mask, action, method⟩
      | (kind, other) => .error (.maskNotText kind other.typeName)
  | other => .error (.handlerNotRecord other.typeName)

/-- Read a configuration. -/
def parse : Value → Except ConfigError Config
  | .record fields =>
    match field? "handlers" fields with
    | none | some .null => .error .noHandlers
    | some (.list items) => do
      let base ← optionalText "base_url" fields .baseNotText
      let handlers ← items.mapM parseHandler
      .ok ⟨handlers, base, (field? "on_no_match" fields).getD .null⟩
    | some other => .error (.handlersNotList other.typeName)
  | other => .error (.notRecord other.typeName)

/-- A text or nothing, as a value. -/
def writeText : Option Text → Value
  | some s => .text s
  | none => .null

/-- Write a handler. -/
def writeHandler (h : HandlerSpec) : Value :=
  .record [(h.kind.field.toList, .text h.mask), ("action".toList, h.action),
    ("method".toList, writeText h.method)]

/-- Write a configuration. -/
def write (c : Config) : Value :=
  .record [("handlers".toList, .list (c.handlers.map writeHandler)),
    ("base_url".toList, writeText c.base), ("on_no_match".toList, c.fallback)]

end Config

end RouteMask
