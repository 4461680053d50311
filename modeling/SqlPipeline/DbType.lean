import SqlPipeline.Value.Basic

/-!
The declared type of a parameter, and the type that is inferred from a value. A type that is not
known by name is kept as it is; values are then sent as their text.
-/

namespace SqlPipeline

inductive DbType where
  | int16
  | int32
  | int64
  | double
  | decimal
  | string
  | boolean
  | datetime
  | datetimeOffset
  | time
  | guid
  | binary
  | object
  | null
  | unknown (name : Text)
  deriving DecidableEq, Repr

namespace DbType

def name : DbType -> Text
  | int16 => "int16"
  | int32 => "int32"
  | int64 => "int64"
  | double => "double"
  | decimal => "decimal"
  | string => "string"
  | boolean => "boolean"
  | datetime => "datetime"
  | datetimeOffset => "datetime_offset"
  | time => "time"
  | guid => "guid"
  | binary => "binary"
  | object => "object"
  | null => "null"
  | unknown name => name

def known : List DbType :=
  [int16, int32, int64, double, decimal, string, boolean, datetime, datetimeOffset, time, guid,
    binary, object, null]

def ofName? (name : Text) : Option DbType :=
  known.find? fun type => type.name = name

def ofName (name : Text) : DbType :=
  (ofName? name).getD (unknown name)

def infer : Value -> DbType
  | .null => null
  | .bool _ => boolean
  | .int _ => int64
  | .real _ => double
  | .decimal _ => decimal
  | .text _ => string
  | .binary _ _ => binary
  | .moment moment => if moment.offset?.isSome then datetimeOffset else datetime
  | .date _ => datetime
  | .clock _ _ => time
  | .span _ => time
  | .uuid _ => guid
  | .list _ => object
  | .dict _ => object

end DbType
end SqlPipeline
