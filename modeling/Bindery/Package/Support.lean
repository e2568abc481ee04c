/-
This file holds the support module of the generated package: helpers that decode a message
from any buffer and show the bytes of a field without copying them.
-/

import Bindery.Text.Fields

namespace Bindery.Package

/-- The first line of every file that the library writes. -/
def headerLine : String := "# Generated by glide-protogen. DO NOT EDIT."

/-- The first line with its end, all that stands in an otherwise empty file. -/
def header : String := headerLine ++ "\n"

/-- The name of the support module. -/
def buffersName : String := "_buffers"

/-- The names that the support module offers. -/
def bufferHelpers : List String := ["parse", "payload_view"]

/-- The lines of the support module after the header. -/
def buffersLines : List String := [
  "\"\"\"Buffer helpers for byte and string payloads of the generated messages.\"\"\"",
  "",
  "from typing import TypeVar, Union",
  "",
  "from google.protobuf.message import Message",
  "",
  "_M = TypeVar(\"_M\", bound=Message)",
  "",
  "Buffer = Union[bytes, bytearray, memoryview]",
  "",
  "",
  "def parse(message_type: \"type[_M]\", data: Buffer) -> _M:",
  "    \"\"\"Decode ``data`` into a new ``message_type`` instance.",
  "",
  "    Any buffer-protocol object is accepted, so a received buffer can be handed",
  "    over as is instead of being copied into ``bytes`` first.",
  "    \"\"\"",
  "    message = message_type()",
  "    message.ParseFromString(data)",
  "    return message",
  "",
  "",
  "def payload_view(message: Message, field: str) -> memoryview:",
  "    \"\"\"Return a read-only view over a ``bytes`` or ``string`` field.",
  "",
  "    ``bytes`` fields are viewed in place. ``string`` fields are UTF-8 encoded",
  "    first, so the view is over a new copy of their contents.",
  "    \"\"\"",
  "    value = getattr(message, field)",
  "    if isinstance(value, str):",
  "        value = value.encode(\"utf-8\")",
  "    if not isinstance(value, bytes):",
  "        raise TypeError(",
  "            f\"\x7btype(message).__name__\x7d.\x7bfield\x7d is not a bytes or string field\"",
  "        )",
  "    return memoryview(value)"]

/-- The text of the support module. -/
def buffersText : String := header ++ Text.join "\n" (buffersLines ++ [""])

end Bindery.Package
