import McpgOperatorApi.Mirror.Rewrite
import McpgOperatorApi.Tenancy.Allowlist

namespace McpgOperatorApi

open Text

/-!
# An allowlist behind a mirror

An allowlist admits images by a registry prefix, and a mirror exchanges the
prefix of an image.  A list that was written for upstream references can be
carried over to the references of the mirror: a prefix below the upstream
becomes the one below the mirror, a prefix that the upstream itself starts with
admits the whole mirror, and any other prefix admits nothing there.
-/

namespace MCPGPluginMirrorSpec

variable (mirror : MCPGPluginMirrorSpec)

variable {mirror}

end MCPGPluginMirrorSpec

end McpgOperatorApi
