import Disposal.TypeTable

/-!
# Framework types

Sources name types of the platform that no analysed file declares.  This table holds those that
matter for disposal, so that a class is seen to be disposable through them.
-/

namespace Disposal.Framework

/-- The interface that disposable types implement. -/
def disposableInterface : String := "System.IDisposable"

/-- A public interface with its base names. -/
def interfaceOf (namespaceName name : String) (baseNames : List String) : TypeSymbol :=
  { name, namespaceName, baseNames, kind := .interfaceType, accessibility := .publicAccess }

/-- A public class with its base names. -/
def classOf (namespaceName name : String) (baseNames : List String) : TypeSymbol :=
  { name, namespaceName, baseNames, kind := .classType, accessibility := .publicAccess }

/-- The framework types. -/
def types : List TypeSymbol := [
  interfaceOf "System" "IDisposable" [],
  interfaceOf "System" "IAsyncDisposable" [],
  interfaceOf "System.ComponentModel" "IComponent" ["System.IDisposable"],
  classOf "System.ComponentModel" "Component" ["System.ComponentModel.IComponent"],
  classOf "System.IO" "Stream" ["System.IDisposable", "System.IAsyncDisposable"],
  classOf "System.IO" "FileStream" ["System.IO.Stream"],
  classOf "System.IO" "MemoryStream" ["System.IO.Stream"],
  classOf "System.IO" "BufferedStream" ["System.IO.Stream"],
  classOf "System.IO" "TextReader" ["System.IDisposable"],
  classOf "System.IO" "StreamReader" ["System.IO.TextReader"],
  classOf "System.IO" "StringReader" ["System.IO.TextReader"],
  classOf "System.IO" "TextWriter" ["System.IDisposable", "System.IAsyncDisposable"],
  classOf "System.IO" "StreamWriter" ["System.IO.TextWriter"],
  classOf "System.IO" "StringWriter" ["System.IO.TextWriter"],
  classOf "System.IO" "BinaryReader" ["System.IDisposable"],
  classOf "System.IO" "BinaryWriter" ["System.IDisposable", "System.IAsyncDisposable"],
  classOf "System.IO" "FileSystemWatcher" ["System.ComponentModel.Component"],
  classOf "System.Net.Http" "HttpMessageInvoker" ["System.IDisposable"],
  classOf "System.Net.Http" "HttpClient" ["System.Net.Http.HttpMessageInvoker"],
  classOf "System.Net.Http" "HttpResponseMessage" ["System.IDisposable"],
  classOf "System.Net.Http" "HttpRequestMessage" ["System.IDisposable"],
  classOf "System.Net.Sockets" "Socket" ["System.IDisposable"],
  classOf "System.Net.Sockets" "TcpClient" ["System.IDisposable"],
  classOf "System.Threading" "Timer" ["System.IDisposable", "System.IAsyncDisposable"],
  classOf "System.Threading" "CancellationTokenSource" ["System.IDisposable"],
  classOf "System.Threading" "SemaphoreSlim" ["System.IDisposable"],
  classOf "System.Threading" "ManualResetEventSlim" ["System.IDisposable"],
  classOf "System.Threading" "ReaderWriterLockSlim" ["System.IDisposable"],
  classOf "System.Threading" "WaitHandle" ["System.IDisposable"],
  classOf "System.Threading" "EventWaitHandle" ["System.Threading.WaitHandle"],
  classOf "System.Threading" "ManualResetEvent" ["System.Threading.EventWaitHandle"],
  classOf "System.Threading" "AutoResetEvent" ["System.Threading.EventWaitHandle"],
  classOf "System.Threading" "Mutex" ["System.Threading.WaitHandle"],
  classOf "System.Timers" "Timer" ["System.ComponentModel.Component"],
  classOf "System.Diagnostics" "Process" ["System.ComponentModel.Component"],
  classOf "System.Data.Common" "DbConnection"
    ["System.ComponentModel.Component", "System.IAsyncDisposable"],
  classOf "System.Data.Common" "DbCommand"
    ["System.ComponentModel.Component", "System.IAsyncDisposable"],
  classOf "System.Data.Common" "DbDataReader" ["System.IDisposable", "System.IAsyncDisposable"],
  classOf "System.Security.Cryptography" "HashAlgorithm" ["System.IDisposable"],
  classOf "System.Security.Cryptography" "SHA256" ["System.Security.Cryptography.HashAlgorithm"],
  classOf "System.Runtime.InteropServices" "SafeHandle" ["System.IDisposable"],
  classOf "Microsoft.Win32.SafeHandles" "SafeFileHandle"
    ["System.Runtime.InteropServices.SafeHandle"]
]

/-- The framework types by qualified name. -/
def table : TypeTable := types.map fun t => (t.qualifiedName, t)

end Disposal.Framework
