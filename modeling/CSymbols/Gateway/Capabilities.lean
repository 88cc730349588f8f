import CSymbols.Gateway.Check

/-! What a client says it is capable of. Nothing of it changes an answer, but it has to be of the
right form. -/
namespace CSymbols.Gateway

open Check (text flag word code choice list record oneOf any)
open Member (need may mayDrop)

namespace Capabilities

/-- A record of flags that may be missing. -/
def flags (name : String) (fields : List String) : Check :=
  record name (fields.map fun field => may field flag)

/-- Whether a capability can be registered later on. -/
def dynamic : Check := flags "DynamicRegistrationClientCapabilities" ["dynamicRegistration"]

def dynamicRegistration : Member := may "dynamicRegistration" flag

/-- The properties that can be filled in later. -/
def lazily (name : String) : Check := record name [need "properties" (list text)]

/-- The tags that a client knows. In place of the list a flag may stand. -/
def tagSupport : Member :=
  mayDrop "tagSupport" fun
    | _, .bool _ => .ok ()
    | r, v => record "TagSupport" [need "valueSet" (list code)] r v

def markupKind : Check := choice ["plaintext", "markdown"]

def symbolKind : Check := record "SymbolKindCapability" [may "valueSet" (list code)]

/-- Whether a client can be told to ask again. -/
def refresh (name : String) : Check := flags name ["refreshSupport"]

def workspaceEdit : Check :=
  record "WorkspaceEditClientCapabilities" [
    may "documentChanges" flag,
    may "resourceOperations" (list (choice ["create", "rename", "delete"])),
    may "failureHandling"
      (choice ["abort", "transactional", "textOnlyTransactional", "undo"]),
    may "normalizesLineEndings" flag,
    may "changeAnnotationSupport"
      (flags "ChangeAnnotationWorkspaceEditClientCapabilities" ["groupsOnLabel"])]

def workspaceSymbol : Check :=
  record "WorkspaceSymbolClientCapabilities" [
    dynamicRegistration,
    may "symbolKind" symbolKind,
    tagSupport,
    may "resolveSupport" (lazily "WorkspaceSymbolResolveSupportCapability")]

def workspace : Check :=
  record "WorkspaceClientCapabilities" [
    may "applyEdit" flag,
    may "workspaceEdit" workspaceEdit,
    may "didChangeConfiguration" dynamic,
    may "didChangeWatchedFiles"
      (flags "DidChangeWatchedFilesClientCapabilities"
        ["dynamicRegistration", "relativePatternSupport"]),
    may "symbol" workspaceSymbol,
    may "executeCommand" dynamic,
    may "workspaceFolders" flag,
    may "configuration" flag,
    may "semanticTokens" (refresh "SemanticTokensWorkspaceClientCapabilities"),
    may "codeLens" (refresh "CodeLensWorkspaceClientCapabilities"),
    may "fileOperations"
      (flags "WorkspaceFileOperationsClientCapabilities"
        ["dynamicRegistration", "didCreate", "willCreate", "didRename", "willRename", "didDelete",
          "willDelete"]),
    may "inlineValue" (refresh "InlineValueWorkspaceClientCapabilities"),
    may "inlayHint" (refresh "InlayHintWorkspaceClientCapabilities"),
    may "diagnostic" (refresh "DiagnosticWorkspaceClientCapabilities")]

def completionItem : Check :=
  record "CompletionItemCapability" [
    may "snippetSupport" flag,
    may "commitCharactersSupport" flag,
    may "documentationFormat" (list markupKind),
    may "deprecatedSupport" flag,
    may "preselectSupport" flag,
    tagSupport,
    may "insertReplaceSupport" flag,
    may "resolveSupport" (lazily "CompletionItemCapabilityResolveSupport"),
    may "insertTextModeSupport" (record "InsertTextModeSupport" [need "valueSet" (list code)]),
    may "labelDetailsSupport" flag]

def completion : Check :=
  record "CompletionClientCapabilities" [
    dynamicRegistration,
    may "completionItem" completionItem,
    may "completionItemKind"
      (record "CompletionItemKindCapability" [may "valueSet" (list code)]),
    may "contextSupport" flag,
    may "insertTextMode" code,
    may "completionList" (record "CompletionListCapability" [may "itemDefaults" (list text)])]

def signatureInformation : Check :=
  record "SignatureInformationSettings" [
    may "documentationFormat" (list markupKind),
    may "parameterInformation" (flags "ParameterInformationSettings" ["labelOffsetSupport"]),
    may "activeParameterSupport" flag]

def signatureHelp : Check :=
  record "SignatureHelpClientCapabilities" [
    dynamicRegistration,
    may "signatureInformation" signatureInformation,
    may "contextSupport" flag]

def documentSymbol : Check :=
  record "DocumentSymbolClientCapabilities" [
    dynamicRegistration,
    may "symbolKind" symbolKind,
    may "hierarchicalDocumentSymbolSupport" flag,
    tagSupport]

/-- Finding where something is declared, defined or implemented. -/
def goto : Check := flags "GotoCapability" ["dynamicRegistration", "linkSupport"]

def codeAction : Check :=
  record "CodeActionClientCapabilities" [
    dynamicRegistration,
    may "codeActionLiteralSupport"
      (record "CodeActionLiteralSupport" [
        need "codeActionKind"
          (record "CodeActionKindLiteralSupport" [need "valueSet" (list text)])]),
    may "isPreferredSupport" flag,
    may "disabledSupport" flag,
    may "dataSupport" flag,
    may "resolveSupport" (lazily "CodeActionCapabilityResolveSupport"),
    may "honorsChangeAnnotations" flag]

def rename : Check :=
  record "RenameClientCapabilities" [
    dynamicRegistration,
    may "prepareSupport" flag,
    may "prepareSupportDefaultBehavior" code,
    may "honorsChangeAnnotations" flag]

def publishDiagnostics : Check :=
  record "PublishDiagnosticsClientCapabilities" [
    may "relatedInformation" flag,
    tagSupport,
    may "versionSupport" flag,
    may "codeDescriptionSupport" flag,
    may "dataSupport" flag]

def foldingRange : Check :=
  record "FoldingRangeClientCapabilities" [
    dynamicRegistration,
    may "rangeLimit" word,
    may "lineFoldingOnly" flag,
    may "foldingRangeKind"
      (record "FoldingRangeKindCapability" [
        may "valueSet" (list (choice ["comment", "imports", "region"]))]),
    may "foldingRange" (flags "FoldingRangeCapability" ["collapsedText"])]

def semanticTokensRequests : Check :=
  record "SemanticTokensClientCapabilitiesRequests" [
    may "range" flag,
    may "full" (oneOf "SemanticTokensFullOptions" [flag, flags "Delta" ["delta"]])]

def semanticTokens : Check :=
  record "SemanticTokensClientCapabilities" [
    dynamicRegistration,
    need "requests" semanticTokensRequests,
    need "tokenTypes" (list text),
    need "tokenModifiers" (list text),
    need "formats" (list text),
    may "overlappingTokenSupport" flag,
    may "multilineTokenSupport" flag,
    may "serverCancelSupport" flag,
    may "augmentsSyntaxTokens" flag]

def textDocument : Check :=
  record "TextDocumentClientCapabilities" [
    may "synchronization"
      (flags "TextDocumentSyncClientCapabilities"
        ["dynamicRegistration", "willSave", "willSaveWaitUntil", "didSave"]),
    may "completion" completion,
    may "hover"
      (record "HoverClientCapabilities" [
        dynamicRegistration, may "contentFormat" (list markupKind)]),
    may "signatureHelp" signatureHelp,
    may "references" dynamic,
    may "documentHighlight" dynamic,
    may "documentSymbol" documentSymbol,
    may "formatting" dynamic,
    may "rangeFormatting" dynamic,
    may "onTypeFormatting" dynamic,
    may "declaration" goto,
    may "definition" goto,
    may "typeDefinition" goto,
    may "implementation" goto,
    may "codeAction" codeAction,
    may "codeLens" dynamic,
    may "documentLink"
      (flags "DocumentLinkClientCapabilities" ["dynamicRegistration", "tooltipSupport"]),
    may "colorProvider" dynamic,
    may "rename" rename,
    may "publishDiagnostics" publishDiagnostics,
    may "foldingRange" foldingRange,
    may "selectionRange" (flags "SelectionRangeClientCapabilities" ["dynamicRegistration"]),
    may "linkedEditingRange" dynamic,
    may "callHierarchy" dynamic,
    may "semanticTokens" semanticTokens,
    may "moniker" dynamic,
    may "typeHierarchy" dynamic,
    may "inlineValue" dynamic,
    may "inlayHint"
      (record "InlayHintClientCapabilities" [
        dynamicRegistration,
        may "resolveSupport" (lazily "InlayHintResolveClientCapabilities")]),
    may "diagnostic"
      (flags "DiagnosticClientCapabilities" ["dynamicRegistration", "relatedDocumentSupport"])]

def window : Check :=
  record "WindowClientCapabilities" [
    may "workDoneProgress" flag,
    may "showMessage"
      (record "ShowMessageRequestClientCapabilities" [
        may "messageActionItem"
          (flags "MessageActionItemCapabilities" ["additionalPropertiesSupport"])]),
    may "showDocument" (record "ShowDocumentClientCapabilities" [need "support" flag])]

def general : Check :=
  record "GeneralClientCapabilities" [
    may "regularExpressions"
      (record "RegularExpressionsClientCapabilities" [need "engine" text, may "version" text]),
    may "markdown"
      (record "MarkdownClientCapabilities" [
        need "parser" text, may "version" text, may "allowedTags" (list text)]),
    may "staleRequestSupport"
      (record "StaleRequestSupportClientCapabilities" [
        need "cancel" flag, need "retryOnContentModified" (list text)]),
    may "positionEncodings" (list text)]

end Capabilities

/-- All capabilities of a client. -/
def clientCapabilities : Check :=
  record "ClientCapabilities" [
    may "workspace" Capabilities.workspace,
    may "textDocument" Capabilities.textDocument,
    may "window" Capabilities.window,
    may "general" Capabilities.general,
    may "experimental" any]

end CSymbols.Gateway
