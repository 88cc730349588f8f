import CSymbols.Gateway.Content

/-! The requests and notices that clients of editors send beside those that are served. Their
parameters are looked at before they are refused. -/
namespace CSymbols.Gateway

namespace Catalogue

open Check (text flag word code number resource list record sharing any)
open Member (need may)
open Content

/-- A request about a place in a document, whose answer may come piece by piece. -/
def search (name : String) (own : List Member) : Check :=
  sharing name own [placed, progress, piecemeal]

/-- A request about a place in a document. -/
def lookAt (name : String) (own : List Member) : Check := sharing name own [placed, progress]

/-- A request about a document, whose answer may come piece by piece. -/
def survey (name : String) (own : List Member) : Check :=
  sharing name own [progress, piecemeal]

/-- A request about files. -/
def onFiles (name item : String) (keys : List String) : Check :=
  record name [need "files" (list (record item (keys.map fun key => need key text)))]

def goto : Check := search "GotoDefinitionParams" []

/-- The requests, by their methods, and the forms of their parameters. -/
def requests : List (String × Check) :=
  [("textDocument/willSaveWaitUntil",
      record "WillSaveTextDocumentParams" [textDocument, need "reason" code]),
    ("textDocument/declaration", goto),
    ("textDocument/definition", goto),
    ("textDocument/typeDefinition", goto),
    ("textDocument/implementation", goto),
    ("textDocument/references",
      search "ReferenceParams" [
        need "context" (record "ReferenceContext" [need "includeDeclaration" flag])]),
    ("textDocument/prepareCallHierarchy", lookAt "CallHierarchyPrepareParams" []),
    ("callHierarchy/incomingCalls",
      survey "CallHierarchyIncomingCallsParams" [need "item" callHierarchyItem]),
    ("callHierarchy/outgoingCalls",
      survey "CallHierarchyOutgoingCallsParams" [need "item" callHierarchyItem]),
    ("textDocument/prepareTypeHierarchy", lookAt "TypeHierarchyPrepareParams" []),
    ("typeHierarchy/supertypes",
      survey "TypeHierarchySupertypesParams" [need "item" typeHierarchyItem]),
    ("typeHierarchy/subtypes",
      survey "TypeHierarchySubtypesParams" [need "item" typeHierarchyItem]),
    ("textDocument/documentHighlight", search "DocumentHighlightParams" []),
    ("textDocument/documentLink", survey "DocumentLinkParams" [textDocument]),
    ("documentLink/resolve",
      record "DocumentLink" [
        need "range" range, may "target" resource, may "tooltip" text, may "data" any]),
    ("textDocument/hover", lookAt "HoverParams" []),
    ("textDocument/codeLens", survey "CodeLensParams" [textDocument]),
    ("codeLens/resolve",
      record "CodeLens" [need "range" range, may "command" command, may "data" any]),
    ("textDocument/foldingRange", survey "FoldingRangeParams" [textDocument]),
    ("textDocument/selectionRange",
      survey "SelectionRangeParams" [textDocument, need "positions" (list position)]),
    ("textDocument/documentSymbol", survey "DocumentSymbolParams" [textDocument]),
    ("textDocument/semanticTokens/full", survey "SemanticTokensParams" [textDocument]),
    ("textDocument/semanticTokens/full/delta",
      survey "SemanticTokensDeltaParams" [textDocument, need "previousResultId" text]),
    ("textDocument/semanticTokens/range",
      survey "SemanticTokensRangeParams" [textDocument, need "range" range]),
    ("textDocument/inlineValue",
      sharing "InlineValueParams" [
        textDocument,
        need "range" range,
        need "context"
          (record "InlineValueContext" [need "frameId" code, need "stoppedLocation" range])]
        [progress]),
    ("textDocument/inlayHint",
      sharing "InlayHintParams" [textDocument, need "range" range] [progress]),
    ("inlayHint/resolve", inlayHint),
    ("textDocument/moniker", search "MonikerParams" []),
    ("textDocument/completion",
      search "CompletionParams" [
        may "context"
          (record "CompletionContext" [
            need "triggerKind" code, may "triggerCharacter" text])]),
    ("completionItem/resolve", completionItem),
    ("textDocument/diagnostic",
      survey "DocumentDiagnosticParams" [
        textDocument, may "identifier" text, may "previousResultId" text]),
    ("workspace/diagnostic",
      survey "WorkspaceDiagnosticParams" [
        may "identifier" text,
        need "previousResultIds"
          (list (record "PreviousResultId" [need "uri" resource, need "value" text]))]),
    ("textDocument/signatureHelp",
      lookAt "SignatureHelpParams" [
        may "context"
          (record "SignatureHelpContext" [
            need "triggerKind" code,
            may "triggerCharacter" text,
            need "isRetrigger" flag,
            may "activeSignatureHelp" signatureHelp])]),
    ("textDocument/codeAction",
      survey "CodeActionParams" [
        textDocument,
        need "range" range,
        need "context"
          (record "CodeActionContext" [
            need "diagnostics" (list diagnostic),
            may "only" (list text),
            may "triggerKind" code])]),
    ("codeAction/resolve", codeAction),
    ("textDocument/documentColor", survey "DocumentColorParams" [textDocument]),
    ("textDocument/colorPresentation",
      survey "ColorPresentationParams" [
        textDocument,
        need "color"
          (record "Color" [
            need "red" number, need "green" number, need "blue" number, need "alpha" number]),
        need "range" range]),
    ("textDocument/formatting",
      sharing "DocumentFormattingParams" [textDocument, need "options" formattingOptions]
        [progress]),
    ("textDocument/rangeFormatting",
      sharing "DocumentRangeFormattingParams" [
        textDocument, need "range" range, need "options" formattingOptions] [progress]),
    ("textDocument/onTypeFormatting",
      sharing "DocumentOnTypeFormattingParams" [
        need "ch" text, need "options" formattingOptions] [placed]),
    ("textDocument/rename", lookAt "RenameParams" [need "newName" text]),
    ("textDocument/prepareRename", record "TextDocumentPositionParams" placed),
    ("textDocument/linkedEditingRange", lookAt "LinkedEditingRangeParams" []),
    ("workspace/symbol",
      sharing "WorkspaceSymbolParams" [need "query" text] [piecemeal, progress]),
    ("workspaceSymbol/resolve",
      record "WorkspaceSymbol" [
        need "name" text,
        need "kind" code,
        may "tags" (list code),
        may "containerName" text,
        need "location"
          (Check.oneOf "OneOf" [
            location, record "WorkspaceLocation" [need "uri" resource]]),
        may "data" any]),
    ("workspace/willCreateFiles", onFiles "CreateFilesParams" "FileCreate" ["uri"]),
    ("workspace/willRenameFiles", onFiles "RenameFilesParams" "FileRename" ["oldUri", "newUri"]),
    ("workspace/willDeleteFiles", onFiles "DeleteFilesParams" "FileDelete" ["uri"]),
    ("workspace/executeCommand",
      sharing "ExecuteCommandParams" [
        need "command" text, .default "arguments" (list any)] [progress])]

/-- The notices, by their methods. -/
def notices : List String :=
  ["initialized", "textDocument/didOpen", "textDocument/didChange", "textDocument/willSave",
    "textDocument/didSave", "textDocument/didClose", "workspace/didChangeConfiguration",
    "workspace/didChangeWorkspaceFolders", "workspace/didCreateFiles",
    "workspace/didRenameFiles", "workspace/didDeleteFiles", "workspace/didChangeWatchedFiles"]

end Catalogue
end CSymbols.Gateway
