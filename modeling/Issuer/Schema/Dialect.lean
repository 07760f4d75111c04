import Issuer.Schema.Rule
import Issuer.Url.Basic
/-!
# Dialects

The six published dialects of JSON Schema and the rules that each has for its own schemas, in the
order in which they are checked.
-/
namespace Issuer.Schema

namespace Rule

/-! ## Rules that keywords share -/

def anyValue : List Rule := []

def string : List Rule := [.type [.string]]

def boolean : List Rule := [.type [.boolean]]

def number : List Rule := [.type [.number]]

def positiveNumber : List Rule := [.type [.number], .positive]

def integer : List Rule := [.type [.integer]]

def count : List Rule := [.type [.integer], .notNegative]

def patternText : List Rule := [.type [.string], .pattern]

def list : List Rule := [.type [.array]]

def schemaList : List Rule := [.type [.array], .nonempty, .items [.schema]]

def schemaMap : List Rule := [.type [.object], .members [.schema]]

def patternMap : List Rule := [.type [.object], .members [.schema], .patternKeys]

def strings : List Rule := [.type [.array], .items string, .distinct]

def someStrings : List Rule := [.type [.array], .nonempty, .items string, .distinct]

def schemaOrList : List Rule := [.either [.schema] schemaList]

def schemaOrBoolean : List Rule := [.either boolean [.schema]]

def typeNames : List Rule :=
  [.among ["array", "boolean", "integer", "null", "number", "object", "string"]]

def types : List Rule :=
  [.either typeNames [.type [.array], .items typeNames, .nonempty, .distinct]]

def dependencies : List Rule := [.type [.object], .members [.either [.schema] strings]]

end Rule

open Rule

/-! ## Draft 3 -/

/-- Types in draft 3: names or schemas. -/
def draft3Types : List Rule :=
  [.type [.string, .array], .items [.either string [.schema]], .distinct]

def draft3 : Dialect where
  types := [.object]
  integralFloats := false
  keywords := [
    ⟨"type", draft3Types⟩,
    ⟨"properties", schemaMap⟩,
    ⟨"patternProperties", schemaMap⟩,
    ⟨"additionalProperties", [.either [.schema] boolean]⟩,
    ⟨"items", [.either [.schema] list, .items [.schema]]⟩,
    ⟨"additionalItems", [.either [.schema] boolean]⟩,
    ⟨"required", boolean⟩,
    ⟨"dependencies",
      [.type [.object], .members [.either [.type [.string, .array]] [.schema], .items string]]⟩,
    ⟨"minimum", number⟩,
    ⟨"maximum", number⟩,
    ⟨"exclusiveMinimum", boolean⟩,
    ⟨"exclusiveMaximum", boolean⟩,
    ⟨"minItems", count⟩,
    ⟨"maxItems", count⟩,
    ⟨"uniqueItems", boolean⟩,
    ⟨"pattern", patternText⟩,
    ⟨"minLength", count⟩,
    ⟨"maxLength", integer⟩,
    ⟨"enum", [.type [.array], .nonempty, .distinct]⟩,
    ⟨"default", anyValue⟩,
    ⟨"title", string⟩,
    ⟨"description", string⟩,
    ⟨"format", string⟩,
    ⟨"divisibleBy", positiveNumber⟩,
    ⟨"disallow", draft3Types⟩,
    ⟨"extends", [.either [.schema] list, .items [.schema]]⟩,
    ⟨"id", string⟩,
    ⟨"$ref", string⟩,
    ⟨"$schema", string⟩]
  needs := [("exclusiveMinimum", "minimum"), ("exclusiveMaximum", "maximum")]

/-! ## Draft 4 -/

def draft4 : Dialect where
  types := [.object]
  integralFloats := false
  keywords := [
    ⟨"id", string⟩,
    ⟨"$schema", string⟩,
    ⟨"title", string⟩,
    ⟨"description", string⟩,
    ⟨"default", anyValue⟩,
    ⟨"multipleOf", positiveNumber⟩,
    ⟨"maximum", number⟩,
    ⟨"exclusiveMaximum", boolean⟩,
    ⟨"minimum", number⟩,
    ⟨"exclusiveMinimum", boolean⟩,
    ⟨"maxLength", count⟩,
    ⟨"minLength", count⟩,
    ⟨"pattern", patternText⟩,
    ⟨"additionalItems", schemaOrBoolean⟩,
    ⟨"items", schemaOrList⟩,
    ⟨"maxItems", count⟩,
    ⟨"minItems", count⟩,
    ⟨"uniqueItems", boolean⟩,
    ⟨"maxProperties", count⟩,
    ⟨"minProperties", count⟩,
    ⟨"required", someStrings⟩,
    ⟨"additionalProperties", schemaOrBoolean⟩,
    ⟨"definitions", schemaMap⟩,
    ⟨"properties", schemaMap⟩,
    ⟨"patternProperties", schemaMap⟩,
    ⟨"dependencies", [.type [.object], .members [.either [.schema] someStrings]]⟩,
    ⟨"enum", [.type [.array], .nonempty, .distinct]⟩,
    ⟨"type", types⟩,
    ⟨"format", string⟩,
    ⟨"allOf", schemaList⟩,
    ⟨"anyOf", schemaList⟩,
    ⟨"oneOf", schemaList⟩,
    ⟨"not", [.schema]⟩]
  needs := [("exclusiveMaximum", "maximum"), ("exclusiveMinimum", "minimum")]

/-! ## Drafts 6 and 7 -/

def sharedKeywords : List Keyword := [
    ⟨"multipleOf", positiveNumber⟩,
    ⟨"maximum", number⟩,
    ⟨"exclusiveMaximum", number⟩,
    ⟨"minimum", number⟩,
    ⟨"exclusiveMinimum", number⟩,
    ⟨"maxLength", count⟩,
    ⟨"minLength", count⟩,
    ⟨"pattern", patternText⟩,
    ⟨"additionalItems", [.schema]⟩,
    ⟨"items", schemaOrList⟩,
    ⟨"maxItems", count⟩,
    ⟨"minItems", count⟩,
    ⟨"uniqueItems", boolean⟩,
    ⟨"contains", [.schema]⟩,
    ⟨"maxProperties", count⟩,
    ⟨"minProperties", count⟩,
    ⟨"required", strings⟩,
    ⟨"additionalProperties", [.schema]⟩,
    ⟨"definitions", schemaMap⟩,
    ⟨"properties", schemaMap⟩,
    ⟨"patternProperties", patternMap⟩,
    ⟨"dependencies", dependencies⟩,
    ⟨"propertyNames", [.schema]⟩,
    ⟨"const", anyValue⟩,
    ⟨"enum", list⟩,
    ⟨"type", types⟩,
    ⟨"format", string⟩]

def combiningKeywords : List Keyword := [
    ⟨"allOf", schemaList⟩,
    ⟨"anyOf", schemaList⟩,
    ⟨"oneOf", schemaList⟩,
    ⟨"not", [.schema]⟩]

def draft6 : Dialect where
  types := [.object, .boolean]
  integralFloats := true
  keywords := [
    ⟨"$id", string⟩,
    ⟨"$schema", string⟩,
    ⟨"$ref", string⟩,
    ⟨"title", string⟩,
    ⟨"description", string⟩,
    ⟨"default", anyValue⟩,
    ⟨"examples", list⟩] ++ sharedKeywords ++ combiningKeywords
  needs := []

def draft7 : Dialect where
  types := [.object, .boolean]
  integralFloats := true
  keywords := [
    ⟨"$id", string⟩,
    ⟨"$schema", string⟩,
    ⟨"$ref", string⟩,
    ⟨"$comment", string⟩,
    ⟨"title", string⟩,
    ⟨"description", string⟩,
    ⟨"default", anyValue⟩,
    ⟨"readOnly", boolean⟩,
    ⟨"examples", list⟩] ++ sharedKeywords ++ [
    ⟨"contentMediaType", string⟩,
    ⟨"contentEncoding", string⟩,
    ⟨"if", [.schema]⟩,
    ⟨"then", [.schema]⟩,
    ⟨"else", [.schema]⟩] ++ combiningKeywords
  needs := []

/-! ## The drafts of 2019 and 2020 -/

/-- Identifiers: URLs without a fragment. -/
def identifier : List Rule := [.type [.string], .spelt .withoutFragment]

def vocabulary : List Rule := [.type [.object], .members boolean]

def validationKeywords : List Keyword := [
    ⟨"multipleOf", positiveNumber⟩,
    ⟨"maximum", number⟩,
    ⟨"exclusiveMaximum", number⟩,
    ⟨"minimum", number⟩,
    ⟨"exclusiveMinimum", number⟩,
    ⟨"maxLength", count⟩,
    ⟨"minLength", count⟩,
    ⟨"pattern", patternText⟩,
    ⟨"maxItems", count⟩,
    ⟨"minItems", count⟩,
    ⟨"uniqueItems", boolean⟩,
    ⟨"maxContains", count⟩,
    ⟨"minContains", count⟩,
    ⟨"maxProperties", count⟩,
    ⟨"minProperties", count⟩,
    ⟨"required", strings⟩,
    ⟨"dependentRequired", [.type [.object], .members strings]⟩]

def annotationKeywords : List Keyword := [
    ⟨"title", string⟩,
    ⟨"description", string⟩,
    ⟨"default", anyValue⟩,
    ⟨"deprecated", boolean⟩,
    ⟨"readOnly", boolean⟩,
    ⟨"writeOnly", boolean⟩,
    ⟨"examples", list⟩,
    ⟨"format", string⟩,
    ⟨"contentMediaType", string⟩,
    ⟨"contentEncoding", string⟩,
    ⟨"contentSchema", [.schema]⟩]

def draft2019 : Dialect where
  types := [.object, .boolean]
  integralFloats := true
  keywords := [
    ⟨"$id", identifier⟩,
    ⟨"$schema", string⟩,
    ⟨"$anchor", [.type [.string], .spelt .anchor]⟩,
    ⟨"$ref", string⟩,
    ⟨"$recursiveRef", string⟩,
    ⟨"$recursiveAnchor", boolean⟩,
    ⟨"$vocabulary", vocabulary⟩,
    ⟨"$comment", string⟩,
    ⟨"$defs", schemaMap⟩,
    ⟨"additionalItems", [.schema]⟩,
    ⟨"unevaluatedItems", [.schema]⟩,
    ⟨"items", schemaOrList⟩,
    ⟨"contains", [.schema]⟩,
    ⟨"additionalProperties", [.schema]⟩,
    ⟨"unevaluatedProperties", [.schema]⟩,
    ⟨"properties", schemaMap⟩,
    ⟨"patternProperties", patternMap⟩,
    ⟨"dependentSchemas", schemaMap⟩,
    ⟨"propertyNames", [.schema]⟩,
    ⟨"if", [.schema]⟩,
    ⟨"then", [.schema]⟩,
    ⟨"else", [.schema]⟩] ++ combiningKeywords ++ validationKeywords ++ [
    ⟨"const", anyValue⟩,
    ⟨"enum", list⟩,
    ⟨"type", types⟩] ++ annotationKeywords ++ [
    ⟨"definitions", schemaMap⟩,
    ⟨"dependencies", dependencies⟩]
  needs := []

def draft2020 : Dialect where
  types := [.object, .boolean]
  integralFloats := true
  keywords := [
    ⟨"$id", identifier⟩,
    ⟨"$schema", string⟩,
    ⟨"$ref", string⟩,
    ⟨"$anchor", [.type [.string], .spelt .plainAnchor]⟩,
    ⟨"$dynamicRef", string⟩,
    ⟨"$dynamicAnchor", [.type [.string], .spelt .plainAnchor]⟩,
    ⟨"$vocabulary", vocabulary⟩,
    ⟨"$comment", string⟩,
    ⟨"$defs", schemaMap⟩,
    ⟨"prefixItems", schemaList⟩,
    ⟨"items", [.schema]⟩,
    ⟨"contains", [.schema]⟩,
    ⟨"additionalProperties", [.schema]⟩,
    ⟨"properties", schemaMap⟩,
    ⟨"patternProperties", patternMap⟩,
    ⟨"dependentSchemas", schemaMap⟩,
    ⟨"propertyNames", [.schema]⟩,
    ⟨"if", [.schema]⟩,
    ⟨"then", [.schema]⟩,
    ⟨"else", [.schema]⟩] ++ combiningKeywords ++ [
    ⟨"unevaluatedItems", [.schema]⟩,
    ⟨"unevaluatedProperties", [.schema]⟩,
    ⟨"type", types⟩,
    ⟨"const", anyValue⟩,
    ⟨"enum", list⟩] ++ validationKeywords ++ annotationKeywords ++ [
    ⟨"definitions", schemaMap⟩,
    ⟨"dependencies", dependencies⟩,
    ⟨"$recursiveAnchor", [.type [.string], .spelt .plainAnchor]⟩,
    ⟨"$recursiveRef", string⟩]
  needs := []

/-! ## Choosing a dialect -/

inductive DialectName where
  | draft3
  | draft4
  | draft6
  | draft7
  | draft2019
  | draft2020
  deriving DecidableEq, Repr

namespace DialectName

def dialect : DialectName → Dialect
  | draft3 => Schema.draft3
  | draft4 => Schema.draft4
  | draft6 => Schema.draft6
  | draft7 => Schema.draft7
  | draft2019 => Schema.draft2019
  | draft2020 => Schema.draft2020

def validator : DialectName → Text
  | draft3 => "Draft3Validator"
  | draft4 => "Draft4Validator"
  | draft6 => "Draft6Validator"
  | draft7 => "Draft7Validator"
  | draft2019 => "Draft201909Validator"
  | draft2020 => "Draft202012Validator"

def urls : List (Text × DialectName) :=
  [("http://json-schema.org/draft-03/schema", draft3),
    ("http://json-schema.org/draft-04/schema", draft4),
    ("http://json-schema.org/draft-06/schema", draft6),
    ("http://json-schema.org/draft-07/schema", draft7),
    ("https://json-schema.org/draft/2019-09/schema", draft2019),
    ("https://json-schema.org/draft/2020-12/schema", draft2020)]

/-- The dialect of a URL; a URL that names none stands for the latest. -/
def ofUrl (url : Text) : Except Url.Problem DialectName := do
  return (urls.lookup (← Url.split url).toText).getD draft2020

end DialectName

end Issuer.Schema
