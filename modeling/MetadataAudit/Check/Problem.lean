/-! # Problems

The reasons for which a check rejects a cell, and their wording.
-/
namespace MetadataAudit

/-- Why a cell is rejected. -/
inductive Problem where
  | lineBreak
  | noArkScheme
  | naanTooShort
  | naanNotAllowed
  | noObjectId
  | invalidObjectId
  | blankCharacter
  | unknownObjectType
  | unknownVisibility
  | pageWithoutSequence
  | sequenceNotInteger
  | sequenceNotPositive
  | noHostDirectory
  | fileMissing (path : String)
  | urlMalformed
  | urlUnreachable
  | urlUnreadable
  | urlBlank
  | urlKnownBad
  | replacementCharacter
  | replacementRepeated
  | noMediaFields
  | mediaColumnMissing (field : String)
  | mediaFieldEmpty (field : String)
  | headerUnavailable (header : String)
  | fieldMissing (field : String)
  | dataMissing (field : String)
  | profileUnknown (profile : String)
deriving DecidableEq

namespace Problem

/-- The wording of a problem. -/
def text : Problem → String
  | lineBreak => "character for EOL found in cell"
  | noArkScheme => "ARK must start with 'ark:/'"
  | naanTooShort => "NAAN must be at least 5 digits long"
  | naanNotAllowed => "The supplied NAAN is not allowed for the supplied profile"
  | noObjectId => "The ARK must contain an object identifier"
  | invalidObjectId => "The object identifier and qualifier is not valid"
  | blankCharacter => "field contains invalid characters (e.g., spaces, line breaks)"
  | unknownObjectType => "object type field doesn't contain valid value"
  | unknownVisibility => "visibility field doesn't contain valid value"
  | pageWithoutSequence => "the Item Sequence is required for a Page"
  | sequenceNotInteger => "the Item Sequence is not an integer"
  | sequenceNotPositive => "the Item Sequence value is not a positive integer"
  | noHostDirectory => "a HOST_DIR must be set"
  | fileMissing path => s!"the file path given does not exist: {path}"
  | urlMalformed => "license URL is not in a proper format (check for HTTPS)"
  | urlUnreachable => "problem connecting to license URL"
  | urlUnreadable => "problem reading body of license URL"
  | urlBlank => "license URL returned an empty page"
  | urlKnownBad => "duplicate invalid license URL"
  | replacementCharacter => "field contains unicode replacement char (\uFFFD)"
  | replacementRepeated => "field duplicates earlier entry with unicode replacement char (\uFFFD)"
  | noMediaFields => "media fields (width, height, duration, format) are all missing"
  | mediaColumnMissing field => s!"media column `{field}` is missing"
  | mediaFieldEmpty field => s!"media field `{field}` is empty"
  | headerUnavailable header => s!"could not retrieve CSV header: {header}"
  | fieldMissing field => s!"required field `{field}` was not found"
  | dataMissing field => s!"data for required field `{field}` was not found"
  | profileUnknown profile => s!"unknown profile `{profile}`"

end Problem
end MetadataAudit
