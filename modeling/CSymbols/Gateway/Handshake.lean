import CSymbols.Gateway.Capabilities

/-! The parameters of a handshake. -/
namespace CSymbols.Gateway

open Member (need may mayDrop)

/-- The parameters of a handshake have to hold the capabilities of the client. -/
def checkHandshake : Check :=
  .record "InitializeParams" [
    may "processId" .word,
    may "rootPath" .text,
    mayDrop "rootUri" .resource,
    may "initializationOptions" .any,
    need "capabilities" clientCapabilities,
    mayDrop "trace" (.choice ["off", "messages", "verbose"]),
    may "workspaceFolders"
      (.list (.record "WorkspaceFolder" [need "uri" .resource, need "name" .text])),
    may "clientInfo" (.record "ClientInfo" [need "name" .text, may "version" .text]),
    may "locale" .text]

end CSymbols.Gateway
