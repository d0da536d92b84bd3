/-!
# The built-in registry document
-/

namespace VectorFamily.Builtin

/-- The lines of the document. -/
def profileLines : List String := [
  "[canonical]",
  "class_prefix = \"Vector\"",
  "symbol = \"std::double_t\"",
  "short_tag = \"d\"",
  "file_tag = \"D\"",
  "default_literal = \"0.0\"",
  "byte_size = 8",
  "range = \"1.7E +/- 308  precision: (15 digits)\"",
  "export_token = \"PFO_API\"",
  "generic_param = \"T\"",
  "interface_extension = \"h\"",
  "implementation_extension = \"cpp\"",
  "",
  "[[profile]]",
  "symbol = \"std::int32_t\"",
  "short_tag = \"i32\"",
  "file_tag = \"i32\"",
  "default_literal = \"0\"",
  "byte_size = 4",
  "range = \"-2.147.483.648 to 2.147.483.647\"",
  "include_label = \"Vectori32.h\"",
  "category = \"standard-numeric\"",
  "",
  "[[profile]]",
  "symbol = \"std::uint32_t\"",
  "short_tag = \"ui32\"",
  "file_tag = \"Ui32\"",
  "default_literal = \"0U\"",
  "byte_size = 4",
  "range = \"0 to 4.294.967.295\"",
  "include_label = \"VectorUi32.h\"",
  "category = \"standard-numeric\"",
  "",
  "[[profile]]",
  "symbol = \"bool\"",
  "short_tag = \"b\"",
  "file_tag = \"B\"",
  "default_literal = \"false\"",
  "byte_size = 1",
  "range = \"true or false\"",
  "include_label = \"VectorB.h\"",
  "category = \"boolean\"",
  "",
  "[[profile]]",
  "symbol = \"std::int8_t\"",
  "short_tag = \"i8\"",
  "file_tag = \"i8\"",
  "default_literal = \"0\"",
  "byte_size = 1",
  "range = \"-128 to 127\"",
  "include_label = \"Vectori8.h\"",
  "category = \"narrow-integer\"",
  "",
  "[[profile]]",
  "symbol = \"std::uint8_t\"",
  "short_tag = \"ui8\"",
  "file_tag = \"Ui8\"",
  "default_literal = \"0\"",
  "byte_size = 1",
  "range = \"0 to 255\"",
  "include_label = \"VectorUi8.h\"",
  "category = \"narrow-integer\"",
  "",
  "[[profile]]",
  "symbol = \"std::int16_t\"",
  "short_tag = \"i16\"",
  "file_tag = \"i16\"",
  "default_literal = \"0\"",
  "byte_size = 2",
  "range = \"-32.768 to 32.767\"",
  "include_label = \"Vectori16.h\"",
  "category = \"narrow-integer\"",
  "",
  "[[profile]]",
  "symbol = \"std::uint16_t\"",
  "short_tag = \"ui16\"",
  "file_tag = \"Ui16\"",
  "default_literal = \"0\"",
  "byte_size = 2",
  "range = \"0 to 65.535\"",
  "include_label = \"VectorUi16.h\"",
  "category = \"narrow-integer\"",
  "",
  "[[profile]]",
  "symbol = \"long\"",
  "short_tag = \"l\"",
  "file_tag = \"L\"",
  "default_literal = \"0L\"",
  "byte_size = 4",
  "range = \"-2.147.483.648 to 2.147.483.647\"",
  "include_label = \"VectorL.h\"",
  "category = \"standard-numeric\"",
  "",
  "[[profile]]",
  "symbol = \"unsigned long\"",
  "short_tag = \"Ul\"",
  "file_tag = \"Ul\"",
  "default_literal = \"0Ul\"",
  "byte_size = 4",
  "range = \"0 to 4.294.967.295\"",
  "include_label = \"VectorUl.h\"",
  "category = \"standard-numeric\"",
  "",
  "[[profile]]",
  "symbol = \"std::int64_t\"",
  "short_tag = \"i64\"",
  "file_tag = \"i64\"",
  "default_literal = \"0ll\"",
  "byte_size = 8",
  "range = \"-9.223.372.036.854.775.808 to 9.223.372.036.854.775.807\"",
  "include_label = \"Vectori64.h\"",
  "category = \"standard-numeric\"",
  "",
  "[[profile]]",
  "symbol = \"std::uint64_t\"",
  "short_tag = \"ui64\"",
  "file_tag = \"Ui64\"",
  "default_literal = \"0Ull\"",
  "byte_size = 8",
  "range = \"0 to 18.446.744.073.709.551.615\"",
  "include_label = \"VectorUi64.h\"",
  "category = \"standard-numeric\"",
  "",
  "[[profile]]",
  "symbol = \"std::float_t\"",
  "short_tag = \"f\"",
  "file_tag = \"F\"",
  "default_literal = \"0.f\"",
  "byte_size = 4",
  "range = \"3.4E +/- 38  precision: (7 digits)\"",
  "include_label = \"VectorF.h\"",
  "category = \"standard-numeric\"",
  "",
  "[[profile]]",
  "symbol = \"wchar_t\"",
  "short_tag = \"Wc\"",
  "file_tag = \"Wc\"",
  "default_literal = \"0\"",
  "byte_size = 2",
  "range = \"0 to 65.535\"",
  "include_label = \"VectorWc.h\"",
  "category = \"wide-character\"",
  "",
  "[[profile]]",
  "symbol = \"long double\"",
  "short_tag = \"Ld\"",
  "file_tag = \"Ld\"",
  "default_literal = \"0.0L\"",
  "byte_size = 8",
  "range = \"1.7E +/- 308  precision: (15 digits)\"",
  "include_label = \"VectorLd.h\"",
  "category = \"standard-numeric\"",
  ""]

/-- The built-in registry document. -/
def profileDocument : String := "\n".intercalate profileLines

end VectorFamily.Builtin
