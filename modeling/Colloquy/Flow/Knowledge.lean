import Colloquy.Schema
import Colloquy.Text.Case
import Colloquy.Text.Search

/-!
# Knowledge items

Digests of documents that an author uploaded, and the look-up over them: an item answers a query when its summary or one
of its keywords contains the query, whatever the case; the first such item counts.
-/

namespace Colloquy

structure KnowledgeItem where
  id : Text
  fileName : Text
  uploadedAt : Option Text
  summary : Option Text
  keywords : List Text
  extras : Entries Text Value

namespace KnowledgeItem

/-- A list of keywords; whatever counts as absent gives none. -/
def keywordsCodec : Schema.Codec (List Text) where
  read v := if v.isFalsy then .value [] else Schema.Codec.text.list.read v
  write := Schema.Codec.text.list.write

namespace Fields

open Schema

def id : FieldSpec Text := .required "id" "id" .text
def fileName : FieldSpec Text := .withDefault "fileName" "file_name" .text ""
def uploadedAt : FieldSpec (Option Text) := .optional "uploadedAt" "uploaded_at" .text
def summary : FieldSpec (Option Text) := .optional "summary" "summary" .text
def keywords : FieldSpec (List Text) := .withDefault "keywords" "keywords" keywordsCodec []

/-- The names of all fields, in order. -/
def names : List (Text × Text) := [id.names, fileName.names, uploadedAt.names, summary.names, keywords.names]

end Fields

open Schema in
/-- An item from the entries of its object. -/
def ofEntries (es : Entries Text Value) : Reading KnowledgeItem :=
  KnowledgeItem.mk <$> Fields.id.read es <*> Fields.fileName.read es <*> Fields.uploadedAt.read es
    <*> Fields.summary.read es <*> Fields.keywords.read es <*> .value (Schema.extras Fields.names es)

/-- An item from a dynamic value. -/
def read : Value → Schema.Reading KnowledgeItem := Schema.readRecord ofEntries

/-- The item's fields as written entries, unset ones as null. -/
def fieldEntries (k : KnowledgeItem) : Entries Text Value :=
  [Fields.id.entry k.id, Fields.fileName.entry k.fileName, Fields.uploadedAt.entry k.uploadedAt,
    Fields.summary.entry k.summary, Fields.keywords.entry k.keywords]

/-- The item in the editor's form. -/
def toWire (k : KnowledgeItem) : Value := .object (Schema.wire k.fieldEntries k.extras)

end KnowledgeItem

namespace Knowledge

/-- Whether an item answers a query that is already lower-cased. -/
def answers (needle : Text) (item : KnowledgeItem) : Bool :=
  Text.occursIn needle (Text.lower (item.summary.getD "")) ||
    item.keywords.any fun keyword => Text.occursIn needle (Text.lower keyword)

/-- The first item that answers a query; an empty query has no answer. -/
def lookup (items : List KnowledgeItem) (query : Text) : Option KnowledgeItem :=
  let needle := Text.lower query
  if needle.isEmpty then none else items.find? (answers needle)

def blockStart : Text := "--- AVAILABLE KNOWLEDGE ITEMS START ---"

def blockEnd : Text := "--- AVAILABLE KNOWLEDGE ITEMS END ---"

/-- The lines that describe an item to the model. -/
def describe (item : KnowledgeItem) : List Text :=
  ["Item ID: " ++ item.id, "Source: " ++ item.fileName, "Summary: " ++ item.summary.getD "",
    "Keywords: " ++ Text.joinWith ", " item.keywords, "---"]

/-- All items as a block of a model prompt. -/
def block (items : List KnowledgeItem) : Text :=
  if items.isEmpty then "" else Text.joinWith "\n" (blockStart :: (items.flatMap describe ++ [blockEnd]))

end Knowledge

end Colloquy
