import CSymbols.Gateway.Check

/-! The records that requests about documents are made of. -/
namespace CSymbols.Gateway.Content

open Check (text flag word code number resource choice list map entries record sharing openRecord
  oneOf any)
open Member (need may mayDrop)

def position : Check := record "Position" [need "line" word, need "character" word]

def range : Check := record "Range" [need "start" position, need "end" position]

def location : Check := record "Location" [need "uri" resource, need "range" range]

def textEdit : Check := record "TextEdit" [need "range" range, need "newText" text]

/-- A document by its address. -/
def textDocument : Member :=
  need "textDocument" (record "TextDocumentIdentifier" [need "uri" resource])

/-- A number or a text. -/
def numberOrText : Check := oneOf "NumberOrString" [code, text]

/-- The members of a request about a place in a document. -/
def placed : List Member := [textDocument, need "position" position]

/-- The member of a request that tells about its progress. -/
def progress : List Member := [may "workDoneToken" numberOrText]

/-- The member of a request that answers piece by piece. -/
def piecemeal : List Member := [may "partialResultToken" numberOrText]

def command : Check :=
  record "Command" [need "title" text, need "command" text, may "arguments" (list any)]

def markup : Check :=
  record "MarkupContent" [need "kind" (choice ["plaintext", "markdown"]), need "value" text]

/-- A text, plain or with a kind. -/
def textOrMarkup (name : String) : Check := oneOf name [text, markup]

def documentation : Check := textOrMarkup "Documentation"

def diagnostic : Check :=
  record "Diagnostic" [
    need "range" range,
    may "severity" code,
    may "code" numberOrText,
    may "codeDescription" (record "CodeDescription" [need "href" resource]),
    may "source" text,
    need "message" text,
    may "relatedInformation"
      (list (record "DiagnosticRelatedInformation" [
        need "location" location, need "message" text])),
    may "tags" (list code),
    may "data" any]

/-- A change of one document. -/
def documentEdit : Check :=
  record "TextDocumentEdit" [
    need "textDocument"
      (record "OptionalVersionedTextDocumentIdentifier" [
        need "uri" resource, may "version" code]),
    need "edits" (list textEdit)]

/-- What may be done with a file: the kind of the operation is one of the members of its record. -/
def fileOperation (kind : String) (fields : List Member) : Check := fun r v =>
  if (v.member? "kind").bind Json.text? = some kind then Check.members fields r v
  else .error (missingField "kind")

def fileOptions (name : String) (fields : List String) : Member :=
  may "options" (record name (fields.map fun field => may field flag))

/-- The description of a change, by its name. -/
def described : Member := may "annotationId" text

def documentChange : Check :=
  oneOf "DocumentChangeOperation" [
    fileOperation "create" [
      need "uri" resource,
      fileOptions "CreateFileOptions" ["overwrite", "ignoreIfExists"],
      described],
    fileOperation "rename" [
      need "oldUri" resource,
      need "newUri" resource,
      fileOptions "RenameFileOptions" ["overwrite", "ignoreIfExists"],
      described],
    fileOperation "delete" [
      need "uri" resource,
      may "options" (record "DeleteFileOptions" [
        may "recursive" flag, may "ignoreIfNotExists" flag, described])],
    documentEdit]

def workspaceEdit : Check :=
  record "WorkspaceEdit" [
    mayDrop "changes" (entries "map" resource (list textEdit)),
    may "documentChanges" (oneOf "DocumentChanges" [list documentEdit, list documentChange]),
    may "changeAnnotations"
      (map (record "ChangeAnnotation" [
        need "label" text, may "needsConfirmation" flag, may "description" text]))]

def formattingOptions : Check :=
  openRecord "FormattingOptions" [
    need "tabSize" word,
    need "insertSpaces" flag,
    may "trimTrailingWhitespace" flag,
    may "insertFinalNewline" flag,
    may "trimFinalNewlines" flag]
    (oneOf "FormattingProperty" [flag, code, text])

/-- An item of a hierarchy. -/
def hierarchyItem (name : String) (tags : Check) : Check :=
  record name [
    need "name" text,
    need "kind" code,
    may "tags" tags,
    may "detail" text,
    need "uri" resource,
    need "range" range,
    need "selectionRange" range,
    may "data" any]

def callHierarchyItem : Check := hierarchyItem "CallHierarchyItem" (list code)

def typeHierarchyItem : Check := hierarchyItem "TypeHierarchyItem" code

def completionItem : Check :=
  record "CompletionItem" [
    need "label" text,
    may "labelDetails"
      (record "CompletionItemLabelDetails" [may "detail" text, may "description" text]),
    may "kind" code,
    may "detail" text,
    may "documentation" documentation,
    may "deprecated" flag,
    may "preselect" flag,
    may "sortText" text,
    may "filterText" text,
    may "insertText" text,
    may "insertTextFormat" code,
    may "insertTextMode" code,
    may "textEdit"
      (oneOf "CompletionTextEdit" [
        textEdit,
        record "InsertReplaceEdit" [
          need "newText" text, need "insert" range, need "replace" range]]),
    may "additionalTextEdits" (list textEdit),
    may "command" command,
    may "commitCharacters" (list text),
    may "data" any,
    may "tags" (list code)]

/-- Two numbers, as a part of a text is given. -/
def offsets : Check
  | r, .array [a, b] => word r a *> word r b
  | _, v => .error (mismatch v "an array of length 2")

def signatureInformation : Check :=
  record "SignatureInformation" [
    need "label" text,
    may "documentation" documentation,
    may "parameters"
      (list (record "ParameterInformation" [
        need "label" (oneOf "ParameterLabel" [text, offsets]),
        may "documentation" documentation])),
    may "activeParameter" word]

def signatureHelp : Check :=
  record "SignatureHelp" [
    need "signatures" (list signatureInformation),
    may "activeSignature" word,
    may "activeParameter" word]

def inlayHint : Check :=
  record "InlayHint" [
    need "position" position,
    need "label"
      (oneOf "InlayHintLabel" [
        text,
        list (record "InlayHintLabelPart" [
          need "value" text,
          may "tooltip" (textOrMarkup "InlayHintLabelPartTooltip"),
          may "location" location,
          may "command" command])]),
    may "kind" code,
    may "textEdits" (list textEdit),
    may "tooltip" (textOrMarkup "InlayHintTooltip"),
    may "paddingLeft" flag,
    may "paddingRight" flag,
    may "data" any]

def codeAction : Check :=
  record "CodeAction" [
    need "title" text,
    may "kind" text,
    may "diagnostics" (list diagnostic),
    may "edit" workspaceEdit,
    may "command" command,
    may "isPreferred" flag,
    may "disabled" (record "CodeActionDisabled" [need "reason" text]),
    may "data" any]

end CSymbols.Gateway.Content
