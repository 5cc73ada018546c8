import RestModel.Generation.ClientModel
import RestModel.Resource.Listing

/-! # Listings of models

The form in which models are printed. What is absent is left out. -/

namespace RestModel

def TypeRef.toJson : TypeRef → Json
  | .primitive kind format =>
      .ofMembers [("kind", some (.string "primitive")), ("primitive", some (.string kind.name)),
        ("format", format.map .string)]
  | .map value => .object [("kind", .string "map"), ("value", value.toJson)]
  | .array item => .object [("kind", .string "array"), ("item", item.toJson)]
  | .named name => .object [("kind", .string "named"), ("name", .string name)]
  | .wrapped inner => .object [("kind", .string "wrapped"), ("inner", inner.toJson)]

def Field.toJson (field : Field) : Json :=
  .ofMembers [("name", some (.string field.name)), ("type", some field.type.toJson),
    ("source_key", some (.string field.sourceKey)), ("required", some (.bool field.required)),
    ("doc", field.doc.map .string)]

def RecordType.toJson (type : RecordType) : Json :=
  .ofMembers [("name", some (.string type.name)),
    ("fields", some (.array (type.fields.map (·.toJson)))),
    ("additional_properties", type.additional.map (·.toJson)),
    ("component", type.component.map .string), ("doc", type.doc.map .string)]

def TypeBody.listing : TypeBody → List (String × Option Json)
  | .fields list =>
      [("body", some (.string "fields")), ("fields", some (.array (list.fields.map (·.toJson)))),
        ("additional_properties", list.additional.map (·.toJson))]
  | .alias target => [("body", some (.string "alias")), ("target", some target.toJson)]

def TypeBody.toJson (body : TypeBody) : Json := .ofMembers body.listing

def ComponentMention.toJson (mention : ComponentMention) : Json :=
  .object [("target", .string mention.target), ("component", .string mention.component),
    ("type_name", .string mention.typeName), ("reference", .string mention.reference),
    ("array", .bool mention.array)]

def Issue.toJson (issue : Issue) : Json :=
  .object [("resource", .string issue.resource), ("operation", .string issue.subject),
    ("reason", .string issue.reason.name), ("message", .string issue.message)]

def Route.toJson (route : Route) : Json :=
  .object [("verb", .string route.verb.name), ("path", .string route.path)]

def ResourceType.toJson (type : ResourceType) : Json :=
  .ofMembers ([("name", some (.string type.name)), ("kind", some (.string type.role.name)),
    ("source", some (.string type.source))] ++ type.body.listing)

def SupportedOperation.toJson (model : SupportedOperation) : Json :=
  .ofMembers [("operation", some (.string model.operation.name)),
    ("verb", some (.string model.route.verb.name)), ("path", some (.string model.route.path)),
    ("summary", model.summary.map .string), ("request", model.request.map .string),
    ("response", model.response.map .string), ("search_params", model.searchParams.map .string)]

def SupportedMethod.toJson (model : SupportedMethod) : Json :=
  .ofMembers [("verb", some (.string model.verb.name)), ("path", some (.string model.path)),
    ("wait", model.wait.map (·.toJson)), ("summary", model.summary.map .string),
    ("request", model.request.map .string), ("response", model.response.map .string)]

def ResourceModel.toJson (resource : ResourceModel) : Json :=
  .ofMembers [("name", some (.string resource.name)), ("path", resource.path.map .string),
    ("operations", some (.array (resource.operations.map (·.toJson)))),
    ("extra_methods", some (.array (resource.extraMethods.map (·.toJson)))),
    ("types", some (.array (resource.types.map (·.toJson)))),
    ("request_url", resource.requestUrl.map (·.toJson)),
    ("response_url", resource.responseUrl.map (·.toJson)),
    ("issues", some (.array (resource.issues.map (·.toJson))))]

def ClientModel.toJson (model : ClientModel) : Json :=
  .object [("resources", .array (model.resources.map (·.toJson))),
    ("types", .array (model.types.map (·.toJson))),
    ("aliases", .array (model.mentions.map (·.toJson))),
    ("issues", .array (model.issues.map (·.toJson)))]

end RestModel
