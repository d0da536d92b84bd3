/-!
# The built-in implementation

The file that defines the members of the canonical classes, line by line.
-/

namespace VectorFamily.Builtin

/-- What stands before the first section. -/
def implementationStart : List String := [
  "#include \"VectorD.h\"",
  "",
  "namespace util::math \x7b",
  "",
  "\t/*",
  "\t\tAccording to the MSVC C++ specification for Windows 10.",
  "\t\tBytes and the associated Range may differ with other specifications",
  "\t\tbut are also dependent on the compiler and platform.",
  "",
  "\t\tType : std::double_t",
  "\t\tBytes: 8",
  "\t\tRange: 1.7E +/- 308  precision: (15 digits)",
  "\t*/",
  ""]

/-- The section of arity two. -/
def implementation2 : List String := [
  "\t// Vector2d",
  "\tinline Vector2d::Vector2d(const std::double_t& x, const std::double_t& y) noexcept",
  "\t\t: x(x), y(y) \x7b\x7d",
  "",
  "\t// copy/move constructor and assignment",
  "\tinline Vector2d::Vector2d(const Vector2d& other) noexcept \x7b",
  "\t\tx = other.x; y = other.y;",
  "\t\x7d",
  "",
  "\tinline Vector2d& Vector2d::operator=(const Vector2d& other) noexcept \x7b",
  "\t\tx = other.x; y = other.y; return *this;",
  "\t\x7d",
  "",
  "\tinline Vector2d::Vector2d(Vector2d&& other) noexcept \x7b",
  "\t\tx = other.x; y = other.y;",
  "\t\x7d",
  "",
  "\tinline Vector2d& Vector2d::operator=(Vector2d&& other) noexcept \x7b",
  "\t\tx = other.x; y = other.y; return *this;",
  "\t\x7d",
  "\t// .....................................",
  "\tinline Vector2d& Vector2d::operator=(const std::double_t& number) noexcept \x7b",
  "\t\tx = number; y = number; return *this;",
  "\t\x7d",
  "",
  "",
  "\tinline Vector2d Vector2d::operator +(const Vector2d& v) const noexcept \x7b",
  "\t\treturn \x7b x + v.x, y + v.y \x7d;",
  "\t\x7d",
  "",
  "\tinline Vector2d Vector2d::operator -(const Vector2d& v) const noexcept \x7b",
  "\t\treturn \x7b x - v.x, y - v.y \x7d;",
  "\t\x7d",
  "",
  "\tinline Vector2d Vector2d::operator *(const Vector2d& v) const noexcept \x7b",
  "\t\treturn \x7b x * v.x, y * v.y \x7d;",
  "\t\x7d",
  "",
  "\tinline Vector2d Vector2d::operator /(const Vector2d& v) const noexcept \x7b",
  "\t\treturn \x7b x / v.x, y / v.y \x7d;",
  "\t\x7d",
  "",
  "",
  "\tinline Vector2d Vector2d::operator +(const std::double_t& number) const noexcept \x7b",
  "\t\treturn \x7b x + number, y + number \x7d;",
  "\t\x7d",
  "",
  "\tinline Vector2d Vector2d::operator -(const std::double_t& number) const noexcept \x7b",
  "\t\treturn \x7b x - number, y - number \x7d;",
  "\t\x7d",
  "",
  "\tinline Vector2d Vector2d::operator *(const std::double_t& number) const noexcept \x7b",
  "\t\treturn \x7b x * number, y * number \x7d;",
  "\t\x7d",
  "",
  "\tinline Vector2d Vector2d::operator /(const std::double_t& number) const noexcept \x7b",
  "\t\treturn \x7b x / number, y / number \x7d;",
  "\t\x7d",
  "",
  "",
  "\t// increment / decrement",
  "\tinline Vector2d& Vector2d::operator++ () noexcept \x7b",
  "\t\t++x; ++y;",
  "\t\treturn *this;",
  "\t\x7d",
  "",
  "\tinline Vector2d& Vector2d::operator-- ()  noexcept \x7b",
  "\t\t--x; --y;",
  "\t\treturn *this;",
  "\t\x7d",
  "",
  "\tinline Vector2d Vector2d::operator++ (int) noexcept \x7b",
  "\t\tVector2d temp = *this;",
  "\t\t++* this;",
  "\t\treturn temp;",
  "\t\x7d",
  "",
  "\tinline Vector2d Vector2d::operator-- (int) noexcept \x7b",
  "\t\tVector2d temp = *this;",
  "\t\t--* this;",
  "\t\treturn temp;",
  "\t\x7d",
  "",
  "",
  "\t// assignments",
  "\tinline Vector2d& Vector2d::operator+= (const Vector2d& right) noexcept \x7b",
  "\t\tx += right.x; y += right.y;",
  "\t\treturn *this;",
  "\t\x7d",
  "",
  "\tinline Vector2d& Vector2d::operator-= (const Vector2d& right) noexcept \x7b",
  "\t\tx -= right.x; y -= right.y;",
  "\t\treturn *this;",
  "\t\x7d",
  "",
  "\tinline Vector2d& Vector2d::operator*= (const Vector2d& right) noexcept \x7b",
  "\t\tx *= right.x; y *= right.y;",
  "\t\treturn *this;",
  "\t\x7d",
  "",
  "\tinline Vector2d& Vector2d::operator/= (const Vector2d& right) noexcept \x7b",
  "\t\tx /= right.x; y /= right.y;",
  "\t\treturn *this;",
  "\t\x7d",
  "",
  "",
  "\tinline Vector2d& Vector2d::operator+= (const std::double_t& number) noexcept \x7b",
  "\t\tx += number; y += number;",
  "\t\treturn *this;",
  "\t\x7d",
  "",
  "\tinline Vector2d& Vector2d::operator-= (const std::double_t& number) noexcept \x7b",
  "\t\tx -= number; y -= number;",
  "\t\treturn *this;",
  "\t\x7d",
  "",
  "\tinline Vector2d& Vector2d::operator*= (const std::double_t& number) noexcept \x7b",
  "\t\tx *= number; y *= number;",
  "\t\treturn *this;",
  "\t\x7d",
  "",
  "\tinline Vector2d& Vector2d::operator/= (const std::double_t& number) noexcept \x7b",
  "\t\tx /= number; y /= number;",
  "\t\treturn *this;",
  "\t\x7d",
  "",
  "",
  "\t// less than / greater than",
  "\tinline bool Vector2d::operator< (const Vector2d& other) const noexcept \x7b",
  "\t\treturn x < other.x && y < other.y;",
  "\t\x7d",
  "",
  "\tinline bool Vector2d::operator<= (const Vector2d& other) const noexcept \x7b",
  "\t\treturn x <= other.x && y <= other.y;",
  "\t\x7d",
  "",
  "\tinline bool Vector2d::operator>  (const Vector2d& other) const noexcept \x7b",
  "\t\treturn x > other.x && y > other.y;",
  "\t\x7d",
  "",
  "\tinline bool Vector2d::operator>= (const Vector2d& other) const noexcept \x7b",
  "\t\treturn x >= other.x && y >= other.y;",
  "\t\x7d",
  "",
  "",
  "\tinline bool Vector2d::operator<  (const std::double_t& number) const noexcept \x7b",
  "\t\treturn x < number && y < number;",
  "\t\x7d",
  "",
  "\tinline bool Vector2d::operator<= (const std::double_t& number) const noexcept \x7b",
  "\t\treturn x <= number && y <= number;",
  "\t\x7d",
  "",
  "\tinline bool Vector2d::operator>  (const std::double_t& number) const noexcept \x7b",
  "\t\treturn x > number && y > number;",
  "\t\x7d",
  "",
  "\tinline bool Vector2d::operator>= (const std::double_t& number) const noexcept \x7b",
  "\t\treturn x >= number && y >= number;",
  "\t\x7d",
  "",
  "",
  "\t// equal / not equal",
  "\tinline bool Vector2d::operator==(const Vector2d& other) const noexcept \x7b",
  "\t\treturn x == other.x && y == other.y;",
  "\t\x7d",
  "",
  "\tinline bool Vector2d::operator!=(const Vector2d& other) const noexcept \x7b",
  "\t\treturn x != other.x || y != other.y;",
  "\t\x7d",
  "",
  "\tinline bool Vector2d::operator==(const std::double_t& number) const noexcept \x7b",
  "\t\treturn x == number && y == number;",
  "\t\x7d",
  "",
  "\tinline bool Vector2d::operator!=(const std::double_t& number) const noexcept \x7b",
  "\t\treturn x != number || y != number;",
  "\t\x7d",
  "",
  "",
  "\tinline constexpr std::uint8_t Vector2d::size() const noexcept \x7b return 2; \x7d",
  "\tinline void Vector2d::reset(const std::double_t& stnd_value) noexcept \x7b",
  "\t\tfor (std::uint8_t i = 0; i < size(); ++i)",
  "\t\t\tthis->at(i) = stnd_value;",
  "\t\x7d",
  "",
  "\tinline std::double_t& Vector2d::operator[](const std::uint8_t& index) noexcept \x7b",
  "\t\treturn at(index);",
  "\t\x7d",
  "\tinline std::double_t& Vector2d::at(const std::uint8_t& index) noexcept",
  "\t\x7b",
  "\t\tstd::double_t* ptr = &x;",
  "\t\tif (index > 1)",
  "\t\t\treturn ptr[0];",
  "\t\treturn ptr[index];",
  "\t\x7d",
  "",
  "",
  ""]

def implementation3 : List String := [
  "\t// Vector3d",
  "\tinline Vector3d::Vector3d(const std::double_t& x, const std::double_t& y, const " ++
    "std::double_t& z) noexcept",
  "\t\t: x(x), y(y), z(z) \x7b\x7d",
  "",
  "\t// copy/move constructor and assignment",
  "\tinline Vector3d::Vector3d(const Vector3d& other) noexcept \x7b",
  "\t\tx = other.x; y = other.y; z = other.z;",
  "\t\x7d",
  "",
  "\tinline Vector3d& Vector3d::operator=(const Vector3d& other) noexcept \x7b",
  "\t\tx = other.x; y = other.y; z = other.z; return *this;",
  "\t\x7d",
  "",
  "\tinline Vector3d::Vector3d(Vector3d&& other) noexcept \x7b",
  "\t\tx = other.x; y = other.y; z = other.z;",
  "\t\x7d",
  "",
  "\tinline Vector3d& Vector3d::operator=(Vector3d&& other) noexcept \x7b",
  "\t\tx = other.x; y = other.y; z = other.z; return *this;",
  "\t\x7d",
  "\t// .....................................",
  "\tinline Vector3d& Vector3d::operator=(const std::double_t& number) noexcept \x7b",
  "\t\tx = number; y = number; z = number; return *this;",
  "\t\x7d",
  "",
  "",
  "\tinline Vector3d Vector3d::operator +(const Vector3d& v) const noexcept \x7b",
  "\t\treturn \x7b x + v.x, y + v.y, z + v.z \x7d;",
  "\t\x7d",
  "",
  "\tinline Vector3d Vector3d::operator -(const Vector3d& v) const noexcept \x7b",
  "\t\treturn \x7b x - v.x, y - v.y, z - v.z \x7d;",
  "\t\x7d",
  "",
  "\tinline Vector3d Vector3d::operator *(const Vector3d& v) const noexcept \x7b",
  "\t\treturn \x7b x * v.x, y * v.y, z * v.z \x7d;",
  "\t\x7d",
  "",
  "\tinline Vector3d Vector3d::operator /(const Vector3d& v) const noexcept \x7b",
  "\t\treturn \x7b x / v.x, y / v.y, z / v.z \x7d;",
  "\t\x7d",
  "",
  " ",
  "\tinline Vector3d Vector3d::operator +(const std::double_t& number) const noexcept \x7b",
  "\t\treturn \x7b x + number, y + number, z + number \x7d;",
  "\t\x7d",
  "",
  "\tinline Vector3d Vector3d::operator -(const std::double_t& number) const noexcept \x7b",
  "\t\treturn \x7b x - number, y - number, z - number \x7d;",
  "\t\x7d",
  "",
  "\tinline Vector3d Vector3d::operator *(const std::double_t& number) const noexcept \x7b",
  "\t\treturn \x7b x * number, y * number, z * number \x7d;",
  "\t\x7d",
  "",
  "\tinline Vector3d Vector3d::operator /(const std::double_t& number) const noexcept \x7b",
  "\t\treturn \x7b x / number, y / number, z / number \x7d;",
  "\t\x7d",
  "",
  "",
  "\t// increment / decrement",
  "\tinline Vector3d& Vector3d::operator++ () noexcept \x7b",
  "\t\t++x; ++y; ++z;",
  "\t\treturn *this;",
  "\t\x7d",
  "",
  "\tinline Vector3d& Vector3d::operator-- () noexcept \x7b",
  "\t\t--x; --y; --z;",
  "\t\treturn *this;",
  "\t\x7d",
  "",
  "\tinline Vector3d Vector3d::operator++ (int) noexcept \x7b",
  "\t\tVector3d temp = *this;",
  "\t\t++* this;",
  "\t\treturn temp;",
  "\t\x7d",
  "",
  "\tinline Vector3d Vector3d::operator-- (int) noexcept \x7b",
  "\t\tVector3d temp = *this;",
  "\t\t--* this;",
  "\t\treturn temp;",
  "\t\x7d",
  "",
  "",
  "\t// assignments",
  "\tinline Vector3d& Vector3d::operator+= (const Vector3d& right) noexcept \x7b",
  "\t\tx += right.x; y += right.y; z += right.z;",
  "\t\treturn *this;",
  "\t\x7d",
  "",
  "\tinline Vector3d& Vector3d::operator-= (const Vector3d& right) noexcept \x7b",
  "\t\tx -= right.x; y -= right.y; z -= right.z;",
  "\t\treturn *this;",
  "\t\x7d",
  "",
  "\tinline Vector3d& Vector3d::operator*= (const Vector3d& right) noexcept \x7b",
  "\t\tx *= right.x; y *= right.y; z *= right.z;",
  "\t\treturn *this;",
  "\t\x7d",
  "",
  "\tinline Vector3d& Vector3d::operator/= (const Vector3d& right) noexcept \x7b",
  "\t\tx /= right.x; y /= right.y; z /= right.z;",
  "\t\treturn *this;",
  "\t\x7d",
  "",
  "",
  "\tinline Vector3d& Vector3d::operator+= (const std::double_t& number) noexcept \x7b",
  "\t\tx += number; y += number; z += number;",
  "\t\treturn *this;",
  "\t\x7d",
  "",
  "\tinline Vector3d& Vector3d::operator-= (const std::double_t& number) noexcept \x7b",
  "\t\tx -= number; y -= number; z -= number;",
  "\t\treturn *this;",
  "\t\x7d",
  "",
  "\tinline Vector3d& Vector3d::operator*= (const std::double_t& number) noexcept \x7b",
  "\t\tx *= number; y *= number; z *= number;",
  "\t\treturn *this;",
  "\t\x7d",
  "",
  "\tinline Vector3d& Vector3d::operator/= (const std::double_t& number) noexcept \x7b",
  "\t\tx /= number; y /= number; z /= number;",
  "\t\treturn *this;",
  "\t\x7d",
  "",
  "",
  "\t// less than / greater than",
  "\tinline bool Vector3d::operator< (const Vector3d& other) const noexcept \x7b",
  "\t\treturn x < other.x && y < other.y&& z < other.z;",
  "\t\x7d",
  "",
  "\tinline bool Vector3d::operator<= (const Vector3d& other) const noexcept \x7b",
  "\t\treturn x <= other.x && y <= other.y && z <= other.z;",
  "\t\x7d",
  "",
  "\tinline bool Vector3d::operator>  (const Vector3d& other) const noexcept \x7b",
  "\t\treturn x > other.x && y > other.y && z > other.z;",
  "\t\x7d",
  "",
  "\tinline bool Vector3d::operator>= (const Vector3d& other) const noexcept \x7b",
  "\t\treturn x >= other.x && y >= other.y && z >= other.z;",
  "\t\x7d",
  "",
  "",
  "\tinline bool Vector3d::operator<  (const std::double_t& number) const noexcept \x7b",
  "\t\treturn x < number && y < number && z < number;",
  "\t\x7d",
  "",
  "\tinline bool Vector3d::operator<= (const std::double_t& number) const noexcept \x7b",
  "\t\treturn x <= number && y <= number && z <= number;",
  "\t\x7d",
  "",
  "\tinline bool Vector3d::operator>  (const std::double_t& number) const noexcept \x7b",
  "\t\treturn x > number && y > number && z > number;",
  "\t\x7d",
  "",
  "\tinline bool Vector3d::operator>= (const std::double_t& number) const noexcept \x7b",
  "\t\treturn x >= number && y >= number && z >= number;",
  "\t\x7d",
  "",
  "",
  "\t// equal / not equal",
  "\tinline bool Vector3d::operator==(const Vector3d& other) const noexcept \x7b",
  "\t\treturn x == other.x && y == other.y && z == other.z;",
  "\t\x7d",
  "",
  "\tinline bool Vector3d::operator!=(const Vector3d& other) const noexcept \x7b",
  "\t\treturn x != other.x || y != other.y || z != other.z;",
  "\t\x7d",
  "",
  "\tinline bool Vector3d::operator==(const std::double_t& number) const noexcept \x7b",
  "\t\treturn x == number && y == number && z == number;",
  "\t\x7d",
  "",
  "\tinline bool Vector3d::operator!=(const std::double_t& number) const noexcept \x7b",
  "\t\treturn x != number || y != number || z != number;",
  "\t\x7d",
  "",
  "",
  "\tinline constexpr std::uint8_t Vector3d::size() const noexcept \x7b return 3; \x7d",
  "\tinline void Vector3d::reset(const std::double_t& stnd_value) noexcept \x7b",
  "\t\tfor (std::uint8_t i = 0; i < size(); ++i)",
  "\t\t\tthis->at(i) = stnd_value;",
  "\t\x7d",
  "",
  "\tinline std::double_t& Vector3d::operator[](const std::uint8_t& index) noexcept \x7b",
  "\t\treturn at(index);",
  "\t\x7d",
  "\tinline std::double_t& Vector3d::at(const std::uint8_t& index) noexcept",
  "\t\x7b",
  "\t\tstd::double_t* ptr = &x;",
  "\t\tif (index > 2)",
  "\t\t\treturn ptr[0];",
  "\t\treturn ptr[index];",
  "\t\x7d",
  "",
  "",
  ""]

def implementation4 : List String := [
  "\t// Vector4d",
  "\tinline Vector4d::Vector4d(const std::double_t& a, const std::double_t& b, const " ++
    "std::double_t& c, const std::double_t& d) noexcept",
  "\t\t: a(a), b(b), c(c), d(d) \x7b\x7d",
  "",
  "\t// copy/move constructor and assignment",
  "\tinline Vector4d::Vector4d(const Vector4d& other) noexcept \x7b",
  "\t\ta = other.a; b = other.b; c = other.c; d = other.d;",
  "\t\x7d",
  "",
  "\tinline Vector4d& Vector4d::operator=(const Vector4d& other) noexcept \x7b",
  "\t\ta = other.a; b = other.b; c = other.c; d = other.d; return *this;",
  "\t\x7d",
  "",
  "\tinline Vector4d::Vector4d(Vector4d&& other) noexcept \x7b",
  "\t\ta = other.a; b = other.b; c = other.c; d = other.d;",
  "\t\x7d",
  "",
  "\tinline Vector4d& Vector4d::operator=(Vector4d&& other) noexcept \x7b",
  "\t\ta = other.a; b = other.b; c = other.c; d = other.d; return *this;",
  "\t\x7d",
  "\t// .....................................",
  "\tinline Vector4d& Vector4d::operator=(const std::double_t& number) noexcept \x7b",
  "\t\ta = number; b = number; c = number; d = number; return *this;",
  "\t\x7d",
  "",
  "",
  "\tinline Vector4d Vector4d::operator +(const Vector4d& v) const noexcept \x7b",
  "\t\treturn \x7b a + v.a, b + v.b, c + v.c, d + v.d \x7d;",
  "\t\x7d",
  "",
  "\tinline Vector4d Vector4d::operator -(const Vector4d& v) const noexcept \x7b",
  "\t\treturn \x7b a - v.a, b - v.b, c - v.c, d - v.d \x7d;",
  "\t\x7d",
  "",
  "\tinline Vector4d Vector4d::operator *(const Vector4d& v) const noexcept \x7b",
  "\t\treturn \x7b a * v.a, b * v.b, c * v.c, d * v.d \x7d;",
  "\t\x7d",
  "",
  "\tinline Vector4d Vector4d::operator /(const Vector4d& v) const noexcept \x7b",
  "\t\treturn \x7b a / v.a, b / v.b, c / v.c, d / v.d \x7d;",
  "\t\x7d",
  "",
  "",
  "\tinline Vector4d Vector4d::operator +(const std::double_t& number) const noexcept \x7b",
  "\t\treturn \x7b a + number, b + number, c + number, d + number \x7d;",
  "\t\x7d",
  "",
  "\tinline Vector4d Vector4d::operator -(const std::double_t& number) const noexcept \x7b",
  "\t\treturn \x7b a - number, b - number, c - number, d - number \x7d;",
  "\t\x7d",
  "",
  "\tinline Vector4d Vector4d::operator *(const std::double_t& number) const noexcept \x7b",
  "\t\treturn \x7b a * number, b * number, c * number, d * number \x7d;",
  "\t\x7d",
  "",
  "\tinline Vector4d Vector4d::operator /(const std::double_t& number) const noexcept \x7b",
  "\t\treturn \x7b a / number, b / number, c / number, d / number \x7d;",
  "\t\x7d",
  "",
  "",
  "\t// increment / decrement",
  "\tinline Vector4d& Vector4d::operator++ () noexcept \x7b",
  "\t\t++a; ++b; ++c; ++d;",
  "\t\treturn *this;",
  "\t\x7d",
  "",
  "\tinline Vector4d& Vector4d::operator-- () noexcept \x7b",
  "\t\t--a; --b; --c; --d;",
  "\t\treturn *this;",
  "\t\x7d",
  "",
  "\tinline Vector4d Vector4d::operator++ (int) noexcept \x7b",
  "\t\tVector4d temp = *this;",
  "\t\t++* this;",
  "\t\treturn temp;",
  "\t\x7d",
  "",
  "\tinline Vector4d Vector4d::operator-- (int) noexcept \x7b",
  "\t\tVector4d temp = *this;",
  "\t\t--* this;",
  "\t\treturn temp;",
  "\t\x7d",
  "",
  "",
  "\t// assignments",
  "\tinline Vector4d& Vector4d::operator+= (const Vector4d& right) noexcept \x7b",
  "\t\ta += right.a; b += right.b; c += right.c; d += right.d;",
  "\t\treturn *this;",
  "\t\x7d",
  "",
  "\tinline Vector4d& Vector4d::operator-= (const Vector4d& right) noexcept \x7b",
  "\t\ta -= right.a; b -= right.b; c -= right.c; d -= right.d;",
  "\t\treturn *this;",
  "\t\x7d",
  "",
  "\tinline Vector4d& Vector4d::operator*= (const Vector4d& right) noexcept \x7b",
  "\t\ta *= right.a; b *= right.b; c *= right.c; d *= right.d;",
  "\t\treturn *this;",
  "\t\x7d",
  "",
  "\tinline Vector4d& Vector4d::operator/= (const Vector4d& right) noexcept \x7b",
  "\t\ta /= right.a; b /= right.b; c /= right.c; d /= right.d;",
  "\t\treturn *this;",
  "\t\x7d",
  "",
  "",
  "\tinline Vector4d& Vector4d::operator+= (const std::double_t& number) noexcept \x7b",
  "\t\ta += number; b += number; c += number; d += number;",
  "\t\treturn *this;",
  "\t\x7d",
  "",
  "\tinline Vector4d& Vector4d::operator-= (const std::double_t& number) noexcept \x7b",
  "\t\ta -= number; b -= number; c -= number; d -= number;",
  "\t\treturn *this;",
  "\t\x7d",
  "",
  "\tinline Vector4d& Vector4d::operator*= (const std::double_t& number) noexcept \x7b",
  "\t\ta *= number; b *= number; c *= number; d *= number;",
  "\t\treturn *this;",
  "\t\x7d",
  "",
  "\tinline Vector4d& Vector4d::operator/= (const std::double_t& number) noexcept \x7b",
  "\t\ta /= number; b /= number; c /= number; d /= number;",
  "\t\treturn *this;",
  "\t\x7d",
  "",
  "",
  "\t// less than / greater than",
  "\tinline bool Vector4d::operator< (const Vector4d& other) const noexcept \x7b",
  "\t\treturn a < other.a && b < other.b&& c < other.c&& d < other.d;",
  "\t\x7d",
  "",
  "\tinline bool Vector4d::operator<= (const Vector4d& other) const noexcept \x7b",
  "\t\treturn a <= other.a && b <= other.b && c <= other.c && d <= other.d;",
  "\t\x7d",
  "",
  "\tinline bool Vector4d::operator>  (const Vector4d& other) const noexcept \x7b",
  "\t\treturn a > other.a && b > other.b && c > other.c && d > other.d;",
  "\t\x7d",
  "",
  "\tinline bool Vector4d::operator>= (const Vector4d& other) const noexcept \x7b",
  "\t\treturn a >= other.a && b >= other.b && c >= other.c && d >= other.d;",
  "\t\x7d",
  "",
  "",
  "\tinline bool Vector4d::operator<  (const std::double_t& number) const noexcept \x7b",
  "\t\treturn a < number && b < number && c < number && d < number;",
  "\t\x7d",
  "",
  "\tinline bool Vector4d::operator<= (const std::double_t& number) const noexcept \x7b",
  "\t\treturn a <= number && b <= number && c <= number && d <= number;",
  "\t\x7d",
  "",
  "\tinline bool Vector4d::operator>  (const std::double_t& number) const noexcept \x7b",
  "\t\treturn a > number && b > number && c > number && d > number;",
  "\t\x7d",
  "",
  "\tinline bool Vector4d::operator>= (const std::double_t& number) const noexcept \x7b",
  "\t\treturn a >= number && b >= number && c >= number && d >= number;",
  "\t\x7d",
  "",
  "",
  "\t// equal / not equal",
  "\tinline bool Vector4d::operator==(const Vector4d& other) const noexcept \x7b",
  "\t\treturn a == other.a && b == other.b && c == other.c && d == other.d;",
  "\t\x7d",
  "",
  "\tinline bool Vector4d::operator!=(const Vector4d& other) const noexcept \x7b",
  "\t\treturn a != other.a || b != other.b || c != other.c || d != other.d;",
  "\t\x7d",
  "",
  "\tinline bool Vector4d::operator==(const std::double_t& number) const noexcept \x7b",
  "\t\treturn a == number && b == number && c == number && d == number;",
  "\t\x7d",
  "",
  "\tinline bool Vector4d::operator!=(const std::double_t& number) const noexcept \x7b",
  "\t\treturn a != number || b != number || c != number || d != number;",
  "\t\x7d",
  "",
  "",
  "\tinline constexpr std::uint8_t Vector4d::size() const noexcept \x7b return 4; \x7d",
  "\tinline void Vector4d::reset(const std::double_t& stnd_value) noexcept \x7b",
  "\t\tfor (std::uint8_t i = 0; i < size(); ++i)",
  "\t\t\tthis->at(i) = stnd_value;",
  "\t\x7d",
  "",
  "\tinline std::double_t& Vector4d::operator[](const std::uint8_t& index) noexcept \x7b",
  "\t\treturn at(index);",
  "\t\x7d",
  "\tinline std::double_t& Vector4d::at(const std::uint8_t& index) noexcept",
  "\t\x7b",
  "\t\tstd::double_t* ptr = &a;",
  "\t\tif (index > 3)",
  "\t\t\treturn ptr[0];",
  "\t\treturn ptr[index];",
  "\t\x7d",
  "",
  "",
  ""]

def implementation5 : List String := [
  "\t// Vector5d",
  "\tinline Vector5d::Vector5d(const std::double_t& a, const std::double_t& b, const " ++
    "std::double_t& c, const std::double_t& d,",
  "\t\tconst std::double_t& e) noexcept",
  "\t\t: a(a), b(b), c(c), d(d), e(e) \x7b\x7d",
  "",
  "\t// copy/move constructor and assignment",
  "\tinline Vector5d::Vector5d(const Vector5d& other) noexcept \x7b",
  "\t\ta = other.a; b = other.b; c = other.c; d = other.d; e = other.e;",
  "\t\x7d",
  "",
  "\tinline Vector5d& Vector5d::operator=(const Vector5d& other) noexcept \x7b",
  "\t\ta = other.a; b = other.b; c = other.c; d = other.d; e = other.e; return *this;",
  "\t\x7d",
  "",
  "\tinline Vector5d::Vector5d(Vector5d&& other) noexcept \x7b",
  "\t\ta = other.a; b = other.b; c = other.c; d = other.d; e = other.e;",
  "\t\x7d",
  "",
  "\tinline Vector5d& Vector5d::operator=(Vector5d&& other) noexcept \x7b",
  "\t\ta = other.a; b = other.b; c = other.c; d = other.d; e = other.e; return *this;",
  "\t\x7d",
  "\t// .....................................",
  "\tinline Vector5d& Vector5d::operator=(const std::double_t& number) noexcept \x7b",
  "\t\ta = number; b = number; c = number; d = number; e = number; return *this;",
  "\t\x7d",
  "",
  "",
  "\tinline Vector5d Vector5d::operator +(const Vector5d& v) const noexcept \x7b",
  "\t\treturn \x7b a + v.a, b + v.b, c + v.c, d + v.d, e + v.e \x7d;",
  "\t\x7d",
  "",
  "\tinline Vector5d Vector5d::operator -(const Vector5d& v) const noexcept \x7b",
  "\t\treturn \x7b a - v.a, b - v.b, c - v.c, d - v.d, e - v.e \x7d;",
  "\t\x7d",
  "",
  "\tinline Vector5d Vector5d::operator *(const Vector5d& v) const noexcept \x7b",
  "\t\treturn \x7b a * v.a, b * v.b, c * v.c, d * v.d, e * v.e \x7d;",
  "\t\x7d",
  "",
  "\tinline Vector5d Vector5d::operator /(const Vector5d& v) const noexcept \x7b",
  "\t\treturn \x7b a / v.a, b / v.b, c / v.c, d / v.d, e / v.e \x7d;",
  "\t\x7d",
  "",
  "",
  "\tinline Vector5d Vector5d::operator +(const std::double_t& number) const noexcept \x7b",
  "\t\treturn \x7b a + number, b + number, c + number, d + number, e + number \x7d;",
  "\t\x7d",
  "",
  "\tinline Vector5d Vector5d::operator -(const std::double_t& number) const noexcept \x7b",
  "\t\treturn \x7b a - number, b - number, c - number, d - number, e - number \x7d;",
  "\t\x7d",
  "",
  "\tinline Vector5d Vector5d::operator *(const std::double_t& number) const noexcept \x7b",
  "\t\treturn \x7b a * number, b * number, c * number, d * number, e * number \x7d;",
  "\t\x7d",
  "",
  "\tinline Vector5d Vector5d::operator /(const std::double_t& number) const noexcept \x7b",
  "\t\treturn \x7b a / number, b / number, c / number, d / number, e / number \x7d;",
  "\t\x7d",
  "",
  "",
  "\t// increment / decrement",
  "\tinline Vector5d& Vector5d::operator++ () noexcept \x7b",
  "\t\t++a; ++b; ++c; ++d; ++e;",
  "\t\treturn *this;",
  "\t\x7d",
  "",
  "\tinline Vector5d& Vector5d::operator-- () noexcept \x7b",
  "\t\t--a; --b; --c; --d; --e;",
  "\t\treturn *this;",
  "\t\x7d",
  "",
  "\tinline Vector5d Vector5d::operator++ (int) noexcept \x7b",
  "\t\tVector5d temp = *this;",
  "\t\t++* this;",
  "\t\treturn temp;",
  "\t\x7d",
  "",
  "\tinline Vector5d Vector5d::operator-- (int) noexcept \x7b",
  "\t\tVector5d temp = *this;",
  "\t\t--* this;",
  "\t\treturn temp;",
  "\t\x7d",
  "",
  "",
  "\t// assignments",
  "\tinline Vector5d& Vector5d::operator+= (const Vector5d& right) noexcept \x7b",
  "\t\ta += right.a; b += right.b; c += right.c; d += right.d; e += right.e;",
  "\t\treturn *this;",
  "\t\x7d",
  "",
  "\tinline Vector5d& Vector5d::operator-= (const Vector5d& right) noexcept \x7b",
  "\t\ta -= right.a; b -= right.b; c -= right.c; d -= right.d; e -= right.e;",
  "\t\treturn *this;",
  "\t\x7d",
  "",
  "\tinline Vector5d& Vector5d::operator*= (const Vector5d& right) noexcept \x7b",
  "\t\ta *= right.a; b *= right.b; c *= right.c; d *= right.d; e *= right.e;",
  "\t\treturn *this;",
  "\t\x7d",
  "",
  "\tinline Vector5d& Vector5d::operator/= (const Vector5d& right) noexcept \x7b",
  "\t\ta /= right.a; b /= right.b; c /= right.c; d /= right.d; e /= right.e;",
  "\t\treturn *this;",
  "\t\x7d",
  "",
  "",
  "\tinline Vector5d& Vector5d::operator+= (const std::double_t& number) noexcept \x7b",
  "\t\ta += number; b += number; c += number; d += number; e += number;",
  "\t\treturn *this;",
  "\t\x7d",
  "",
  "\tinline Vector5d& Vector5d::operator-= (const std::double_t& number) noexcept \x7b",
  "\t\ta -= number; b -= number; c -= number; d -= number; e -= number;",
  "\t\treturn *this;",
  "\t\x7d",
  "",
  "\tinline Vector5d& Vector5d::operator*= (const std::double_t& number) noexcept \x7b",
  "\t\ta *= number; b *= number; c *= number; d *= number; e *= number;",
  "\t\treturn *this;",
  "\t\x7d",
  "",
  "\tinline Vector5d& Vector5d::operator/= (const std::double_t& number) noexcept \x7b",
  "\t\ta /= number; b /= number; c /= number; d /= number; e /= number;",
  "\t\treturn *this;",
  "\t\x7d",
  "",
  "",
  "\t// less than / greater than",
  "\tinline bool Vector5d::operator< (const Vector5d& other) const noexcept \x7b",
  "\t\treturn a < other.a && b < other.b&& c < other.c&& d < other.d&& e < other.e;",
  "\t\x7d",
  "",
  "\tinline bool Vector5d::operator<= (const Vector5d& other) const noexcept \x7b",
  "\t\treturn a <= other.a && b <= other.b && c <= other.c && d <= other.d && e <= other.e;",
  "\t\x7d",
  "",
  "\tinline bool Vector5d::operator>  (const Vector5d& other) const noexcept \x7b",
  "\t\treturn a > other.a && b > other.b && c > other.c && d > other.d && e > other.e;",
  "\t\x7d",
  "",
  "\tinline bool Vector5d::operator>= (const Vector5d& other) const noexcept \x7b",
  "\t\treturn a >= other.a && b >= other.b && c >= other.c && d >= other.d && e >= other.e;",
  "\t\x7d",
  "",
  "",
  "\tinline bool Vector5d::operator<  (const std::double_t& number) const noexcept \x7b",
  "\t\treturn a < number && b < number && c < number && d < number && e < number;",
  "\t\x7d",
  "",
  "\tinline bool Vector5d::operator<= (const std::double_t& number) const noexcept \x7b",
  "\t\treturn a <= number && b <= number && c <= number && d <= number && e <= number;",
  "\t\x7d",
  "",
  "\tinline bool Vector5d::operator>  (const std::double_t& number) const noexcept \x7b",
  "\t\treturn a > number && b > number && c > number && d > number && e > number;",
  "\t\x7d",
  "",
  "\tinline bool Vector5d::operator>= (const std::double_t& number) const noexcept \x7b",
  "\t\treturn a >= number && b >= number && c >= number && d >= number && e >= number;",
  "\t\x7d",
  "",
  "",
  "\t// equal / not equal",
  "\tinline bool Vector5d::operator==(const Vector5d& other) const noexcept \x7b",
  "\t\treturn a == other.a && b == other.b && c == other.c && d == other.d && e == other.e;",
  "\t\x7d",
  "",
  "\tinline bool Vector5d::operator!=(const Vector5d& other) const noexcept \x7b",
  "\t\treturn a != other.a || b != other.b || c != other.c || d != other.d || e != other.e;",
  "\t\x7d",
  "",
  "\tinline bool Vector5d::operator==(const std::double_t& number) const noexcept \x7b",
  "\t\treturn a == number && b == number && c == number && d == number && e == number;",
  "\t\x7d",
  "",
  "\tinline bool Vector5d::operator!=(const std::double_t& number) const noexcept \x7b",
  "\t\treturn a != number || b != number || c != number || d != number || e != number;",
  "\t\x7d",
  "",
  "",
  "\tinline constexpr std::uint8_t Vector5d::size() const noexcept \x7b return 5; \x7d",
  "\tinline void Vector5d::reset(const std::double_t& stnd_value) noexcept \x7b",
  "\t\tfor (std::uint8_t i = 0; i < size(); ++i)",
  "\t\t\tthis->at(i) = stnd_value;",
  "\t\x7d",
  "",
  "\tinline std::double_t& Vector5d::operator[](const std::uint8_t& index) noexcept \x7b",
  "\t\treturn at(index);",
  "\t\x7d",
  "\tinline std::double_t& Vector5d::at(const std::uint8_t& index) noexcept",
  "\t\x7b",
  "\t\tstd::double_t* ptr = &a;",
  "\t\tif (index > 4)",
  "\t\t\treturn ptr[0];",
  "\t\treturn ptr[index];",
  "\t\x7d",
  "",
  "",
  ""]

def implementation6 : List String := [
  "\t// Vector6d",
  "\tinline Vector6d::Vector6d(const std::double_t& a, const std::double_t& b, const " ++
    "std::double_t& c, const std::double_t& d,",
  "\t\tconst std::double_t& e, const std::double_t& f) noexcept",
  "\t\t: a(a), b(b), c(c), d(d), e(e), f(f) \x7b\x7d",
  "",
  "\t// copy/move constructor and assignment",
  "\tinline Vector6d::Vector6d(const Vector6d& other) noexcept \x7b",
  "\t\ta = other.a; b = other.b; c = other.c; d = other.d; e = other.e; f = other.f;",
  "\t\x7d",
  "",
  "\tinline Vector6d& Vector6d::operator=(const Vector6d& other) noexcept \x7b",
  "\t\ta = other.a; b = other.b; c = other.c; d = other.d; e = other.e; f = other.f; return *this;",
  "\t\x7d",
  "",
  "\tinline Vector6d::Vector6d(Vector6d&& other) noexcept \x7b",
  "\t\ta = other.a; b = other.b; c = other.c; d = other.d; e = other.e; f = other.f;",
  "\t\x7d",
  "",
  "\tinline Vector6d& Vector6d::operator=(Vector6d&& other) noexcept \x7b",
  "\t\ta = other.a; b = other.b; c = other.c; d = other.d; e = other.e; f = other.f; return *this;",
  "\t\x7d",
  "\t// .....................................",
  "\tinline Vector6d& Vector6d::operator=(const std::double_t& number) noexcept \x7b",
  "\t\ta = number; b = number; c = number; d = number; e = number; f = number; return *this;",
  "\t\x7d",
  "",
  "",
  "\tinline Vector6d Vector6d::operator +(const Vector6d& v) const noexcept \x7b",
  "\t\treturn \x7b a + v.a, b + v.b, c + v.c, d + v.d, e + v.e, f + v.f \x7d;",
  "\t\x7d",
  "",
  "\tinline Vector6d Vector6d::operator -(const Vector6d& v) const noexcept \x7b",
  "\t\treturn \x7b a - v.a, b - v.b, c - v.c, d - v.d, e - v.e, f - v.f \x7d;",
  "\t\x7d",
  "",
  "\tinline Vector6d Vector6d::operator *(const Vector6d& v) const noexcept \x7b",
  "\t\treturn \x7b a * v.a, b * v.b, c * v.c, d * v.d, e * v.e, f * v.f \x7d;",
  "\t\x7d",
  "",
  "\tinline Vector6d Vector6d::operator /(const Vector6d& v) const noexcept \x7b",
  "\t\treturn \x7b a / v.a, b / v.b, c / v.c, d / v.d, e / v.e, f / v.f \x7d;",
  "\t\x7d",
  "",
  "",
  "\tinline Vector6d Vector6d::operator +(const std::double_t& number) const noexcept \x7b",
  "\t\treturn \x7b a + number, b + number, c + number, d + number, e + number, f + number \x7d;",
  "\t\x7d",
  "",
  "\tinline Vector6d Vector6d::operator -(const std::double_t& number) const noexcept \x7b",
  "\t\treturn \x7b a - number, b - number, c - number, d - number, e - number, f - number \x7d;",
  "\t\x7d",
  "",
  "\tinline Vector6d Vector6d::operator *(const std::double_t& number) const noexcept \x7b",
  "\t\treturn \x7b a * number, b * number, c * number, d * number, e * number, f * number \x7d;",
  "\t\x7d",
  "",
  "\tinline Vector6d Vector6d::operator /(const std::double_t& number) const noexcept \x7b",
  "\t\treturn \x7b a / number, b / number, c / number, d / number, e / number, f / number \x7d;",
  "\t\x7d",
  "",
  "",
  "\t// increment / decrement",
  "\tinline Vector6d& Vector6d::operator++ () noexcept \x7b",
  "\t\t++a; ++b; ++c; ++d; ++e; ++f;",
  "\t\treturn *this;",
  "\t\x7d",
  "",
  "\tinline Vector6d& Vector6d::operator-- () noexcept \x7b",
  "\t\t--a; --b; --c; --d; --e; --f;",
  "\t\treturn *this;",
  "\t\x7d",
  "",
  "\tinline Vector6d Vector6d::operator++ (int) noexcept \x7b",
  "\t\tVector6d temp = *this;",
  "\t\t++* this;",
  "\t\treturn temp;",
  "\t\x7d",
  "",
  "\tinline Vector6d Vector6d::operator-- (int) noexcept \x7b",
  "\t\tVector6d temp = *this;",
  "\t\t--* this;",
  "\t\treturn temp;",
  "\t\x7d",
  "",
  "",
  "\t// assignments",
  "\tinline Vector6d& Vector6d::operator+= (const Vector6d& right) noexcept \x7b",
  "\t\ta += right.a; b += right.b; c += right.c; d += right.d; e += right.e; f += right.f;",
  "\t\treturn *this;",
  "\t\x7d",
  "",
  "\tinline Vector6d& Vector6d::operator-= (const Vector6d& right) noexcept \x7b",
  "\t\ta -= right.a; b -= right.b; c -= right.c; d -= right.d; e -= right.e; f -= right.f;",
  "\t\treturn *this;",
  "\t\x7d",
  "",
  "\tinline Vector6d& Vector6d::operator*= (const Vector6d& right) noexcept \x7b",
  "\t\ta *= right.a; b *= right.b; c *= right.c; d *= right.d; e *= right.e; f *= right.f;",
  "\t\treturn *this;",
  "\t\x7d",
  "",
  "\tinline Vector6d& Vector6d::operator/= (const Vector6d& right) noexcept \x7b",
  "\t\ta /= right.a; b /= right.b; c /= right.c; d /= right.d; e /= right.e; f /= right.f;",
  "\t\treturn *this;",
  "\t\x7d",
  "",
  "",
  "\tinline Vector6d& Vector6d::operator+= (const std::double_t& number) noexcept \x7b",
  "\t\ta += number; b += number; c += number; d += number; e += number; f += number;",
  "\t\treturn *this;",
  "\t\x7d",
  "",
  "\tinline Vector6d& Vector6d::operator-= (const std::double_t& number) noexcept \x7b",
  "\t\ta -= number; b -= number; c -= number; d -= number; e -= number; f -= number;",
  "\t\treturn *this;",
  "\t\x7d",
  "",
  "\tinline Vector6d& Vector6d::operator*= (const std::double_t& number) noexcept \x7b",
  "\t\ta *= number; b *= number; c *= number; d *= number; e *= number; f *= number;",
  "\t\treturn *this;",
  "\t\x7d",
  "",
  "\tinline Vector6d& Vector6d::operator/= (const std::double_t& number) noexcept \x7b",
  "\t\ta /= number; b /= number; c /= number; d /= number; e /= number; f /= number;",
  "\t\treturn *this;",
  "\t\x7d",
  "",
  "",
  "\t// less than / greater than",
  "\tinline bool Vector6d::operator< (const Vector6d& other) const noexcept \x7b",
  "\t\treturn a < other.a && b < other.b&& c < other.c&& d < other.d&& e < other.e&& f < other.f;",
  "\t\x7d",
  "",
  "\tinline bool Vector6d::operator<= (const Vector6d& other) const noexcept \x7b",
  "\t\treturn a <= other.a && b <= other.b && c <= other.c && d <= other.d && e <= other.e && f " ++
    "<= other.f;",
  "\t\x7d",
  "",
  "\tinline bool Vector6d::operator>  (const Vector6d& other) const noexcept \x7b",
  "\t\treturn a > other.a && b > other.b && c > other.c && d > other.d && e > other.e && f > " ++
    "other.f;",
  "\t\x7d",
  "",
  "\tinline bool Vector6d::operator>= (const Vector6d& other) const noexcept \x7b",
  "\t\treturn a >= other.a && b >= other.b && c >= other.c && d >= other.d && e >= other.e && f " ++
    ">= other.f;",
  "\t\x7d",
  "",
  "",
  "\tinline bool Vector6d::operator<  (const std::double_t& number) const noexcept \x7b",
  "\t\treturn a < number && b < number && c < number && d < number && e < number && f < number;",
  "\t\x7d",
  "",
  "\tinline bool Vector6d::operator<= (const std::double_t& number) const noexcept \x7b",
  "\t\treturn a <= number && b <= number && c <= number && d <= number && e <= number && f <= " ++
    "number;",
  "\t\x7d",
  "",
  "\tinline bool Vector6d::operator>  (const std::double_t& number) const noexcept \x7b",
  "\t\treturn a > number && b > number && c > number && d > number && e > number && f > number;",
  "\t\x7d",
  "",
  "\tinline bool Vector6d::operator>= (const std::double_t& number) const noexcept \x7b",
  "\t\treturn a >= number && b >= number && c >= number && d >= number && e >= number && f >= " ++
    "number;",
  "\t\x7d",
  "",
  "",
  "\t// equal / not equal",
  "\tinline bool Vector6d::operator==(const Vector6d& other) const noexcept \x7b",
  "\t\treturn a == other.a && b == other.b && c == other.c && d == other.d && e == other.e && f " ++
    "== other.f;",
  "\t\x7d",
  "",
  "\tinline bool Vector6d::operator!=(const Vector6d& other) const noexcept \x7b",
  "\t\treturn a != other.a || b != other.b || c != other.c || d != other.d || e != other.e || f " ++
    "!= other.f;",
  "\t\x7d",
  "",
  "\tinline bool Vector6d::operator==(const std::double_t& number) const noexcept \x7b",
  "\t\treturn a == number && b == number && c == number && d == number && e == number && f == " ++
    "number;",
  "\t\x7d",
  "",
  "\tinline bool Vector6d::operator!=(const std::double_t& number) const noexcept \x7b",
  "\t\treturn a != number || b != number || c != number || d != number || e != number || f != " ++
    "number;",
  "\t\x7d",
  "",
  "",
  "\tinline constexpr std::uint8_t Vector6d::size() const noexcept \x7b return 6; \x7d",
  "\tinline void Vector6d::reset(const std::double_t& stnd_value) noexcept \x7b",
  "\t\tfor (std::uint8_t i = 0; i < size(); ++i)",
  "\t\t\tthis->at(i) = stnd_value;",
  "\t\x7d",
  "",
  "\tinline std::double_t& Vector6d::operator[](const std::uint8_t& index) noexcept \x7b",
  "\t\treturn at(index);",
  "\t\x7d",
  "\tinline std::double_t& Vector6d::at(const std::uint8_t& index) noexcept",
  "\t\x7b",
  "\t\tstd::double_t* ptr = &a;",
  "\t\tif (index > 5)",
  "\t\t\treturn ptr[0];",
  "\t\treturn ptr[index];",
  "\t\x7d",
  "",
  "",
  ""]

def implementation7 : List String := [
  "\t// Vector7d",
  "\tinline Vector7d::Vector7d(const std::double_t& a, const std::double_t& b, const " ++
    "std::double_t& c, const std::double_t& d,",
  "\t\tconst std::double_t& e, const std::double_t& f, const std::double_t& g) noexcept",
  "\t\t: a(a), b(b), c(c), d(d), e(e), f(f), g(g) \x7b\x7d",
  "",
  "\t// copy/move constructor and assignment",
  "\tinline Vector7d::Vector7d(const Vector7d& other) noexcept \x7b",
  "\t\ta = other.a; b = other.b; c = other.c; d = other.d; e = other.e; f = other.f; g = other.g;",
  "\t\x7d",
  "",
  "\tinline Vector7d& Vector7d::operator=(const Vector7d& other) noexcept \x7b",
  "\t\ta = other.a; b = other.b; c = other.c; d = other.d; e = other.e; f = other.f; g = " ++
    "other.g; return *this;",
  "\t\x7d",
  "",
  "\tinline Vector7d::Vector7d(Vector7d&& other) noexcept \x7b",
  "\t\ta = other.a; b = other.b; c = other.c; d = other.d; e = other.e; f = other.f; g = other.g;",
  "\t\x7d",
  "",
  "\tinline Vector7d& Vector7d::operator=(Vector7d&& other) noexcept \x7b",
  "\t\ta = other.a; b = other.b; c = other.c; d = other.d; e = other.e; f = other.f; g = " ++
    "other.g; return *this;",
  "\t\x7d",
  "\t// .....................................",
  "\tinline Vector7d& Vector7d::operator=(const std::double_t& number) noexcept \x7b",
  "\t\ta = number; b = number; c = number; d = number; e = number; f = number; g = number; " ++
    "return *this;",
  "\t\x7d",
  "",
  "",
  "\tinline Vector7d Vector7d::operator +(const Vector7d& v) const noexcept \x7b",
  "\t\treturn \x7b a + v.a, b + v.b, c + v.c, d + v.d, e + v.e, f + v.f, g + v.g \x7d;",
  "\t\x7d",
  "",
  "\tinline Vector7d Vector7d::operator -(const Vector7d& v) const noexcept \x7b",
  "\t\treturn \x7b a - v.a, b - v.b, c - v.c, d - v.d, e - v.e, f - v.f, g - v.g \x7d;",
  "\t\x7d",
  "",
  "\tinline Vector7d Vector7d::operator *(const Vector7d& v) const noexcept \x7b",
  "\t\treturn \x7b a * v.a, b * v.b, c * v.c, d * v.d, e * v.e, f * v.f, g * v.g \x7d;",
  "\t\x7d",
  "",
  "\tinline Vector7d Vector7d::operator /(const Vector7d& v) const noexcept \x7b",
  "\t\treturn \x7b a / v.a, b / v.b, c / v.c, d / v.d, e / v.e, f / v.f, g / v.g \x7d;",
  "\t\x7d",
  "",
  "",
  "\tinline Vector7d Vector7d::operator +(const std::double_t& number) const noexcept \x7b",
  "\t\treturn \x7b a + number, b + number, c + number, d + number, e + number, f + number, g + " ++
    "number \x7d;",
  "\t\x7d",
  "",
  "\tinline Vector7d Vector7d::operator -(const std::double_t& number) const noexcept \x7b",
  "\t\treturn \x7b a - number, b - number, c - number, d - number, e - number, f - number, g - " ++
    "number \x7d;",
  "\t\x7d",
  "",
  "\tinline Vector7d Vector7d::operator *(const std::double_t& number) const noexcept \x7b",
  "\t\treturn \x7b a * number, b * number, c * number, d * number, e * number, f * number, g * " ++
    "number \x7d;",
  "\t\x7d",
  "",
  "\tinline Vector7d Vector7d::operator /(const std::double_t& number) const noexcept \x7b",
  "\t\treturn \x7b a / number, b / number, c / number, d / number, e / number, f / number, g / " ++
    "number \x7d;",
  "\t\x7d",
  "",
  "",
  "\t// increment / decrement",
  "\tinline Vector7d& Vector7d::operator++ () noexcept \x7b",
  "\t\t++a; ++b; ++c; ++d; ++e; ++f; ++g;",
  "\t\treturn *this;",
  "\t\x7d",
  "",
  "\tinline Vector7d& Vector7d::operator-- () noexcept \x7b",
  "\t\t--a; --b; --c; --d; --e; --f; --g;",
  "\t\treturn *this;",
  "\t\x7d",
  "",
  "\tinline Vector7d Vector7d::operator++ (int) noexcept \x7b",
  "\t\tVector7d temp = *this;",
  "\t\t++* this;",
  "\t\treturn temp;",
  "\t\x7d",
  "",
  "\tinline Vector7d Vector7d::operator-- (int) noexcept \x7b",
  "\t\tVector7d temp = *this;",
  "\t\t--* this;",
  "\t\treturn temp;",
  "\t\x7d",
  "",
  "",
  "\t// assignments",
  "\tinline Vector7d& Vector7d::operator+= (const Vector7d& right) noexcept \x7b",
  "\t\ta += right.a; b += right.b; c += right.c; d += right.d; e += right.e; f += right.f; g += " ++
    "right.g;",
  "\t\treturn *this;",
  "\t\x7d",
  "",
  "\tinline Vector7d& Vector7d::operator-= (const Vector7d& right) noexcept \x7b",
  "\t\ta -= right.a; b -= right.b; c -= right.c; d -= right.d; e -= right.e; f -= right.f; g -= " ++
    "right.g;",
  "\t\treturn *this;",
  "\t\x7d",
  "",
  "\tinline Vector7d& Vector7d::operator*= (const Vector7d& right) noexcept \x7b",
  "\t\ta *= right.a; b *= right.b; c *= right.c; d *= right.d; e *= right.e; f *= right.f; g *= " ++
    "right.g;",
  "\t\treturn *this;",
  "\t\x7d",
  "",
  "\tinline Vector7d& Vector7d::operator/= (const Vector7d& right) noexcept \x7b",
  "\t\ta /= right.a; b /= right.b; c /= right.c; d /= right.d; e /= right.e; f /= right.f; g /= " ++
    "right.g;",
  "\t\treturn *this;",
  "\t\x7d",
  "",
  "",
  "\tinline Vector7d& Vector7d::operator+= (const std::double_t& number) noexcept \x7b",
  "\t\ta += number; b += number; c += number; d += number; e += number; f += number; g += number;",
  "\t\treturn *this;",
  "\t\x7d",
  "",
  "\tinline Vector7d& Vector7d::operator-= (const std::double_t& number) noexcept \x7b",
  "\t\ta -= number; b -= number; c -= number; d -= number; e -= number; f -= number; g -= number;",
  "\t\treturn *this;",
  "\t\x7d",
  "",
  "\tinline Vector7d& Vector7d::operator*= (const std::double_t& number) noexcept \x7b",
  "\t\ta *= number; b *= number; c *= number; d *= number; e *= number; f *= number; g *= number;",
  "\t\treturn *this;",
  "\t\x7d",
  "",
  "\tinline Vector7d& Vector7d::operator/= (const std::double_t& number) noexcept \x7b",
  "\t\ta /= number; b /= number; c /= number; d /= number; e /= number; f /= number; g /= number;",
  "\t\treturn *this;",
  "\t\x7d",
  "",
  "",
  "\t// less than / greater than",
  "\tinline bool Vector7d::operator< (const Vector7d& other) const noexcept \x7b",
  "\t\treturn a < other.a && b < other.b&& c < other.c&& d < other.d&& e < other.e&& f < " ++
    "other.f&& g < other.g;",
  "\t\x7d",
  "",
  "\tinline bool Vector7d::operator<= (const Vector7d& other) const noexcept \x7b",
  "\t\treturn a <= other.a && b <= other.b && c <= other.c && d <= other.d && e <= other.e && f " ++
    "<= other.f && g <= other.g;",
  "\t\x7d",
  "",
  "\tinline bool Vector7d::operator>  (const Vector7d& other) const noexcept \x7b",
  "\t\treturn a > other.a && b > other.b && c > other.c && d > other.d && e > other.e && f > " ++
    "other.f && g > other.g;",
  "\t\x7d",
  "",
  "\tinline bool Vector7d::operator>= (const Vector7d& other) const noexcept \x7b",
  "\t\treturn a >= other.a && b >= other.b && c >= other.c && d >= other.d && e >= other.e && f " ++
    ">= other.f && g >= other.g;",
  "\t\x7d",
  "",
  "",
  "\tinline bool Vector7d::operator<  (const std::double_t& number) const noexcept \x7b",
  "\t\treturn a < number && b < number && c < number && d < number && e < number && f < number " ++
    "&& g < number;",
  "\t\x7d",
  "",
  "\tinline bool Vector7d::operator<= (const std::double_t& number) const noexcept \x7b",
  "\t\treturn a <= number && b <= number && c <= number && d <= number && e <= number && f <= " ++
    "number && g <= number;",
  "\t\x7d",
  "",
  "\tinline bool Vector7d::operator>  (const std::double_t& number) const noexcept \x7b",
  "\t\treturn a > number && b > number && c > number && d > number && e > number && f > number " ++
    "&& g > number;",
  "\t\x7d",
  "",
  "\tinline bool Vector7d::operator>= (const std::double_t& number) const noexcept \x7b",
  "\t\treturn a >= number && b >= number && c >= number && d >= number && e >= number && f >= " ++
    "number && g >= number;",
  "\t\x7d",
  "",
  "",
  "\t// equal / not equal",
  "\tinline bool Vector7d::operator==(const Vector7d& other) const noexcept \x7b",
  "\t\treturn a == other.a && b == other.b && c == other.c && d == other.d && e == other.e && f " ++
    "== other.f && g == other.g;",
  "\t\x7d",
  "",
  "\tinline bool Vector7d::operator!=(const Vector7d& other) const noexcept \x7b",
  "\t\treturn a != other.a || b != other.b || c != other.c || d != other.d || e != other.e || f " ++
    "!= other.f || g != other.g;",
  "\t\x7d",
  "",
  "\tinline bool Vector7d::operator==(const std::double_t& number) const noexcept \x7b",
  "\t\treturn a == number && b == number && c == number && d == number && e == number && f == " ++
    "number && g == number;",
  "\t\x7d",
  "",
  "\tinline bool Vector7d::operator!=(const std::double_t& number) const noexcept \x7b",
  "\t\treturn a != number || b != number || c != number || d != number || e != number || f != " ++
    "number || g != number;",
  "\t\x7d",
  "",
  "",
  "\tinline constexpr std::uint8_t Vector7d::size() const noexcept \x7b return 7; \x7d",
  "\tinline void Vector7d::reset(const std::double_t& stnd_value) noexcept \x7b",
  "\t\tfor (std::uint8_t i = 0; i < size(); ++i)",
  "\t\t\tthis->at(i) = stnd_value;",
  "\t\x7d",
  "",
  "\tinline std::double_t& Vector7d::operator[](const std::uint8_t& index) noexcept \x7b",
  "\t\treturn at(index);",
  "\t\x7d",
  "\tinline std::double_t& Vector7d::at(const std::uint8_t& index) noexcept",
  "\t\x7b",
  "\t\tstd::double_t* ptr = &a;",
  "\t\tif (index > 6)",
  "\t\t\treturn ptr[0];",
  "\t\treturn ptr[index];",
  "\t\x7d",
  "",
  "",
  ""]

def implementation8 : List String := [
  "\t// Vector8d",
  "\tinline Vector8d::Vector8d(const std::double_t& a, const std::double_t& b, const " ++
    "std::double_t& c, const std::double_t& d,",
  "\t\tconst std::double_t& e, const std::double_t& f, const std::double_t& g, const " ++
    "std::double_t& h) noexcept",
  "\t\t: a(a), b(b), c(c), d(d), e(e), f(f), g(g), h(h) \x7b\x7d",
  "",
  "\t// copy/move constructor and assignment",
  "\tinline Vector8d::Vector8d(const Vector8d& other) noexcept \x7b",
  "\t\ta = other.a; b = other.b; c = other.c; d = other.d; e = other.e; f = other.f; g = " ++
    "other.g; h = other.h;",
  "\t\x7d",
  "",
  "\tinline Vector8d& Vector8d::operator=(const Vector8d& other) noexcept \x7b",
  "\t\ta = other.a; b = other.b; c = other.c; d = other.d; e = other.e; f = other.f; g = " ++
    "other.g; h = other.h; return *this;",
  "\t\x7d",
  "",
  "\tinline Vector8d::Vector8d(Vector8d&& other) noexcept \x7b",
  "\t\ta = other.a; b = other.b; c = other.c; d = other.d; e = other.e; f = other.f; g = " ++
    "other.g; h = other.h;",
  "\t\x7d",
  "",
  "\tinline Vector8d& Vector8d::operator=(Vector8d&& other) noexcept \x7b",
  "\t\ta = other.a; b = other.b; c = other.c; d = other.d; e = other.e; f = other.f; g = " ++
    "other.g; h = other.h; return *this;",
  "\t\x7d",
  "\t// .....................................",
  "\tinline Vector8d& Vector8d::operator=(const std::double_t& number) noexcept \x7b",
  "\t\ta = number; b = number; c = number; d = number; e = number; f = number; g = number; h = " ++
    "number; return *this;",
  "\t\x7d",
  "",
  "",
  "\tinline Vector8d Vector8d::operator +(const Vector8d& v) const noexcept \x7b",
  "\t\treturn \x7b a + v.a, b + v.b, c + v.c, d + v.d, e + v.e, f + v.f, g + v.g, h + v.h \x7d;",
  "\t\x7d",
  "",
  "\tinline Vector8d Vector8d::operator -(const Vector8d& v) const noexcept \x7b",
  "\t\treturn \x7b a - v.a, b - v.b, c - v.c, d - v.d, e - v.e, f - v.f, g - v.g, h - v.h \x7d;",
  "\t\x7d",
  "",
  "\tinline Vector8d Vector8d::operator *(const Vector8d& v) const noexcept \x7b",
  "\t\treturn \x7b a * v.a, b * v.b, c * v.c, d * v.d, e * v.e, f * v.f, g * v.g, h * v.h \x7d;",
  "\t\x7d",
  "",
  "\tinline Vector8d Vector8d::operator /(const Vector8d& v) const noexcept \x7b",
  "\t\treturn \x7b a / v.a, b / v.b, c / v.c, d / v.d, e / v.e, f / v.f, g / v.g, h / v.h \x7d;",
  "\t\x7d",
  "",
  "",
  "\tinline Vector8d Vector8d::operator +(const std::double_t& number) const noexcept \x7b",
  "\t\treturn \x7b a + number, b + number, c + number, d + number, e + number, f + number, g + " ++
    "number, h + number \x7d;",
  "\t\x7d",
  "",
  "\tinline Vector8d Vector8d::operator -(const std::double_t& number) const noexcept \x7b",
  "\t\treturn \x7b a - number, b - number, c - number, d - number, e - number, f - number, g - " ++
    "number, h - number \x7d;",
  "\t\x7d",
  "",
  "\tinline Vector8d Vector8d::operator *(const std::double_t& number) const noexcept \x7b",
  "\t\treturn \x7b a * number, b * number, c * number, d * number, e * number, f * number, g * " ++
    "number, h * number \x7d;",
  "\t\x7d",
  "",
  "\tinline Vector8d Vector8d::operator /(const std::double_t& number) const noexcept \x7b",
  "\t\treturn \x7b a / number, b / number, c / number, d / number, e / number, f / number, g / " ++
    "number, h / number \x7d;",
  "\t\x7d",
  "",
  "",
  "\t// increment / decrement",
  "\tinline Vector8d& Vector8d::operator++ () noexcept \x7b",
  "\t\t++a; ++b; ++c; ++d; ++e; ++f; ++g; ++h;",
  "\t\treturn *this;",
  "\t\x7d",
  "",
  "\tinline Vector8d& Vector8d::operator-- () noexcept \x7b",
  "\t\t--a; --b; --c; --d; --e; --f; --g; --h;",
  "\t\treturn *this;",
  "\t\x7d",
  "",
  "\tinline Vector8d Vector8d::operator++ (int) noexcept \x7b",
  "\t\tVector8d temp = *this;",
  "\t\t++* this;",
  "\t\treturn temp;",
  "\t\x7d",
  "",
  "\tinline Vector8d Vector8d::operator-- (int) noexcept \x7b",
  "\t\tVector8d temp = *this;",
  "\t\t--* this;",
  "\t\treturn temp;",
  "\t\x7d",
  "",
  "",
  "\t// assignments",
  "\tinline Vector8d& Vector8d::operator+= (const Vector8d& right) noexcept \x7b",
  "\t\ta += right.a; b += right.b; c += right.c; d += right.d; e += right.e; f += right.f; g += " ++
    "right.g; h += right.h;",
  "\t\treturn *this;",
  "\t\x7d",
  "",
  "\tinline Vector8d& Vector8d::operator-= (const Vector8d& right) noexcept \x7b",
  "\t\ta -= right.a; b -= right.b; c -= right.c; d -= right.d; e -= right.e; f -= right.f; g -= " ++
    "right.g; h -= right.h;",
  "\t\treturn *this;",
  "\t\x7d",
  "",
  "\tinline Vector8d& Vector8d::operator*= (const Vector8d& right) noexcept \x7b",
  "\t\ta *= right.a; b *= right.b; c *= right.c; d *= right.d; e *= right.e; f *= right.f; g *= " ++
    "right.g; h *= right.h;",
  "\t\treturn *this;",
  "\t\x7d",
  "",
  "\tinline Vector8d& Vector8d::operator/= (const Vector8d& right) noexcept \x7b",
  "\t\ta /= right.a; b /= right.b; c /= right.c; d /= right.d; e /= right.e; f /= right.f; g /= " ++
    "right.g; h /= right.h;",
  "\t\treturn *this;",
  "\t\x7d",
  "",
  "",
  "\tinline Vector8d& Vector8d::operator+= (const std::double_t& number) noexcept \x7b",
  "\t\ta += number; b += number; c += number; d += number; e += number; f += number; g += " ++
    "number; h += number;",
  "\t\treturn *this;",
  "\t\x7d",
  "",
  "\tinline Vector8d& Vector8d::operator-= (const std::double_t& number) noexcept \x7b",
  "\t\ta -= number; b -= number; c -= number; d -= number; e -= number; f -= number; g -= " ++
    "number; h -= number;",
  "\t\treturn *this;",
  "\t\x7d",
  "",
  "\tinline Vector8d& Vector8d::operator*= (const std::double_t& number) noexcept \x7b",
  "\t\ta *= number; b *= number; c *= number; d *= number; e *= number; f *= number; g *= " ++
    "number; h *= number;",
  "\t\treturn *this;",
  "\t\x7d",
  "",
  "\tinline Vector8d& Vector8d::operator/= (const std::double_t& number) noexcept \x7b",
  "\t\ta /= number; b /= number; c /= number; d /= number; e /= number; f /= number; g /= " ++
    "number; h /= number;",
  "\t\treturn *this;",
  "\t\x7d",
  "",
  "",
  "\t// less than / greater than",
  "\tinline bool Vector8d::operator< (const Vector8d& other) const noexcept \x7b",
  "\t\treturn a < other.a && b < other.b&& c < other.c&& d < other.d&& e < other.e&& f < " ++
    "other.f&& g < other.g&& h < other.h;",
  "\t\x7d",
  "",
  "\tinline bool Vector8d::operator<= (const Vector8d& other) const noexcept \x7b",
  "\t\treturn a <= other.a && b <= other.b && c <= other.c && d <= other.d && e <= other.e && f " ++
    "<= other.f && g <= other.g && h <= other.h;",
  "\t\x7d",
  "",
  "\tinline bool Vector8d::operator>  (const Vector8d& other) const noexcept \x7b",
  "\t\treturn a > other.a && b > other.b && c > other.c && d > other.d && e > other.e && f > " ++
    "other.f && g > other.g && h > other.h;",
  "\t\x7d",
  "",
  "\tinline bool Vector8d::operator>= (const Vector8d& other) const noexcept \x7b",
  "\t\treturn a >= other.a && b >= other.b && c >= other.c && d >= other.d && e >= other.e && f " ++
    ">= other.f && g >= other.g && h >= other.h;",
  "\t\x7d",
  "",
  "",
  "\tinline bool Vector8d::operator<  (const std::double_t& number) const noexcept \x7b",
  "\t\treturn a < number && b < number && c < number && d < number && e < number && f < number " ++
    "&& g < number && h < number;",
  "\t\x7d",
  "",
  "\tinline bool Vector8d::operator<= (const std::double_t& number) const noexcept \x7b",
  "\t\treturn a <= number && b <= number && c <= number && d <= number && e <= number && f <= " ++
    "number && g <= number && h <= number;",
  "\t\x7d",
  "",
  "\tinline bool Vector8d::operator>  (const std::double_t& number) const noexcept \x7b",
  "\t\treturn a > number && b > number && c > number && d > number && e > number && f > number " ++
    "&& g > number && h > number;",
  "\t\x7d",
  "",
  "\tinline bool Vector8d::operator>= (const std::double_t& number) const noexcept \x7b",
  "\t\treturn a >= number && b >= number && c >= number && d >= number && e >= number && f >= " ++
    "number && g >= number && h >= number;",
  "\t\x7d",
  "",
  "",
  "\t// equal / not equal",
  "\tinline bool Vector8d::operator==(const Vector8d& other) const noexcept \x7b",
  "\t\treturn a == other.a && b == other.b && c == other.c && d == other.d && e == other.e && f " ++
    "== other.f && g == other.g && h == other.h;",
  "\t\x7d",
  "",
  "\tinline bool Vector8d::operator!=(const Vector8d& other) const noexcept \x7b",
  "\t\treturn a != other.a || b != other.b || c != other.c || d != other.d || e != other.e || f " ++
    "!= other.f || g != other.g || h != other.h;",
  "\t\x7d",
  "",
  "\tinline bool Vector8d::operator==(const std::double_t& number) const noexcept \x7b",
  "\t\treturn a == number && b == number && c == number && d == number && e == number && f == " ++
    "number && g == number && h == number;",
  "\t\x7d",
  "",
  "\tinline bool Vector8d::operator!=(const std::double_t& number) const noexcept \x7b",
  "\t\treturn a != number || b != number || c != number || d != number || e != number || f != " ++
    "number || g != number || h != number;",
  "\t\x7d",
  "",
  "",
  "\tinline constexpr std::uint8_t Vector8d::size() const noexcept \x7b return 8; \x7d",
  "\tinline void Vector8d::reset(const std::double_t& stnd_value) noexcept \x7b",
  "\t\tfor (std::uint8_t i = 0; i < size(); ++i)",
  "\t\t\tthis->at(i) = stnd_value;",
  "\t\x7d",
  "",
  "\tinline std::double_t& Vector8d::operator[](const std::uint8_t& index) noexcept \x7b",
  "\t\treturn at(index);",
  "\t\x7d",
  "\tinline std::double_t& Vector8d::at(const std::uint8_t& index) noexcept",
  "\t\x7b",
  "\t\tstd::double_t* ptr = &a;",
  "\t\tif (index > 7)",
  "\t\t\treturn ptr[0];",
  "\t\treturn ptr[index];",
  "\t\x7d",
  "",
  "",
  ""]

def implementation9 : List String := [
  "\t// Vector9d",
  "\tinline Vector9d::Vector9d(const std::double_t& a, const std::double_t& b, const " ++
    "std::double_t& c, const std::double_t& d,",
  "\t\tconst std::double_t& e, const std::double_t& f, const std::double_t& g, const " ++
    "std::double_t& h,",
  "\t\tconst std::double_t& i) noexcept",
  "\t\t: a(a), b(b), c(c), d(d), e(e), f(f), g(g), h(h), i(i) \x7b\x7d",
  "",
  "\t// copy/move constructor and assignment",
  "\tinline Vector9d::Vector9d(const Vector9d& other) noexcept \x7b",
  "\t\ta = other.a; b = other.b; c = other.c; d = other.d; e = other.e; f = other.f; g = " ++
    "other.g; h = other.h; i = other.i;",
  "\t\x7d",
  "",
  "\tinline Vector9d& Vector9d::operator=(const Vector9d& other) noexcept \x7b",
  "\t\ta = other.a; b = other.b; c = other.c; d = other.d; e = other.e; f = other.f; g = " ++
    "other.g; h = other.h; i = other.i; return *this;",
  "\t\x7d",
  "",
  "\tinline Vector9d::Vector9d(Vector9d&& other) noexcept \x7b",
  "\t\ta = other.a; b = other.b; c = other.c; d = other.d; e = other.e; f = other.f; g = " ++
    "other.g; h = other.h; i = other.i;",
  "\t\x7d",
  "",
  "\tinline Vector9d& Vector9d::operator=(Vector9d&& other) noexcept \x7b",
  "\t\ta = other.a; b = other.b; c = other.c; d = other.d; e = other.e; f = other.f; g = " ++
    "other.g; h = other.h; i = other.i; return *this;",
  "\t\x7d",
  "\t// .....................................",
  "\tinline Vector9d& Vector9d::operator=(const std::double_t& number) noexcept \x7b",
  "\t\ta = number; b = number; c = number; d = number; e = number; f = number; g = number; h = " ++
    "number; i = number; return *this;",
  "\t\x7d",
  "",
  "",
  "\tinline Vector9d Vector9d::operator +(const Vector9d& v) const noexcept \x7b",
  "\t\treturn \x7b a + v.a, b + v.b, c + v.c, d + v.d, e + v.e, f + v.f, g + v.g, h + v.h, i + " ++
    "v.i \x7d;",
  "\t\x7d",
  "",
  "\tinline Vector9d Vector9d::operator -(const Vector9d& v) const noexcept \x7b",
  "\t\treturn \x7b a - v.a, b - v.b, c - v.c, d - v.d, e - v.e, f - v.f, g - v.g, h - v.h, i - " ++
    "v.i \x7d;",
  "\t\x7d",
  "",
  "\tinline Vector9d Vector9d::operator *(const Vector9d& v) const noexcept \x7b",
  "\t\treturn \x7b a * v.a, b * v.b, c * v.c, d * v.d, e * v.e, f * v.f, g * v.g, h * v.h, i * " ++
    "v.i \x7d;",
  "\t\x7d",
  "",
  "\tinline Vector9d Vector9d::operator /(const Vector9d& v) const noexcept \x7b",
  "\t\treturn \x7b a / v.a, b / v.b, c / v.c, d / v.d, e / v.e, f / v.f, g / v.g, h / v.h, i / " ++
    "v.i \x7d;",
  "\t\x7d",
  "",
  "",
  "\tinline Vector9d Vector9d::operator +(const std::double_t& number) const noexcept \x7b",
  "\t\treturn \x7b a + number, b + number, c + number, d + number, e + number, f + number, g + " ++
    "number, h + number, i + number \x7d;",
  "\t\x7d",
  "",
  "\tinline Vector9d Vector9d::operator -(const std::double_t& number) const noexcept \x7b",
  "\t\treturn \x7b a - number, b - number, c - number, d - number, e - number, f - number, g - " ++
    "number, h - number, i - number \x7d;",
  "\t\x7d",
  "",
  "\tinline Vector9d Vector9d::operator *(const std::double_t& number) const noexcept \x7b",
  "\t\treturn \x7b a * number, b * number, c * number, d * number, e * number, f * number, g * " ++
    "number, h * number, i * number \x7d;",
  "\t\x7d",
  "",
  "\tinline Vector9d Vector9d::operator /(const std::double_t& number) const noexcept \x7b",
  "\t\treturn \x7b a / number, b / number, c / number, d / number, e / number, f / number, g / " ++
    "number, h / number, i / number \x7d;",
  "\t\x7d",
  "",
  "",
  "\t// increment / decrement",
  "\tinline Vector9d& Vector9d::operator++ () noexcept \x7b",
  "\t\t++a; ++b; ++c; ++d; ++e; ++f; ++g; ++h; ++i;",
  "\t\treturn *this;",
  "\t\x7d",
  "",
  "\tinline Vector9d& Vector9d::operator-- () noexcept \x7b",
  "\t\t--a; --b; --c; --d; --e; --f; --g; --h; --i;",
  "\t\treturn *this;",
  "\t\x7d",
  "",
  "\tinline Vector9d Vector9d::operator++ (int) noexcept \x7b",
  "\t\tVector9d temp = *this;",
  "\t\t++* this;",
  "\t\treturn temp;",
  "\t\x7d",
  "",
  "\tinline Vector9d Vector9d::operator-- (int) noexcept \x7b",
  "\t\tVector9d temp = *this;",
  "\t\t--* this;",
  "\t\treturn temp;",
  "\t\x7d",
  "",
  "",
  "\t// assignments",
  "\tinline Vector9d& Vector9d::operator+= (const Vector9d& right) noexcept \x7b",
  "\t\ta += right.a; b += right.b; c += right.c; d += right.d; e += right.e; f += right.f; g += " ++
    "right.g; h += right.h; i += right.i;",
  "\t\treturn *this;",
  "\t\x7d",
  "",
  "\tinline Vector9d& Vector9d::operator-= (const Vector9d& right) noexcept \x7b",
  "\t\ta -= right.a; b -= right.b; c -= right.c; d -= right.d; e -= right.e; f -= right.f; g -= " ++
    "right.g; h -= right.h; i -= right.i;",
  "\t\treturn *this;",
  "\t\x7d",
  "",
  "\tinline Vector9d& Vector9d::operator*= (const Vector9d& right) noexcept \x7b",
  "\t\ta *= right.a; b *= right.b; c *= right.c; d *= right.d; e *= right.e; f *= right.f; g *= " ++
    "right.g; h *= right.h; i *= right.i;",
  "\t\treturn *this;",
  "\t\x7d",
  "",
  "\tinline Vector9d& Vector9d::operator/= (const Vector9d& right) noexcept \x7b",
  "\t\ta /= right.a; b /= right.b; c /= right.c; d /= right.d; e /= right.e; f /= right.f; g /= " ++
    "right.g; h /= right.h; i /= right.i;",
  "\t\treturn *this;",
  "\t\x7d",
  "",
  "",
  "\tinline Vector9d& Vector9d::operator+= (const std::double_t& number) noexcept \x7b",
  "\t\ta += number; b += number; c += number; d += number; e += number; f += number; g += " ++
    "number; h += number; i += number;",
  "\t\treturn *this;",
  "\t\x7d",
  "",
  "\tinline Vector9d& Vector9d::operator-= (const std::double_t& number) noexcept \x7b",
  "\t\ta -= number; b -= number; c -= number; d -= number; e -= number; f -= number; g -= " ++
    "number; h -= number; i -= number;",
  "\t\treturn *this;",
  "\t\x7d",
  "",
  "\tinline Vector9d& Vector9d::operator*= (const std::double_t& number) noexcept \x7b",
  "\t\ta *= number; b *= number; c *= number; d *= number; e *= number; f *= number; g *= " ++
    "number; h *= number; i *= number;",
  "\t\treturn *this;",
  "\t\x7d",
  "",
  "\tinline Vector9d& Vector9d::operator/= (const std::double_t& number) noexcept \x7b",
  "\t\ta /= number; b /= number; c /= number; d /= number; e /= number; f /= number; g /= " ++
    "number; h /= number; i /= number;",
  "\t\treturn *this;",
  "\t\x7d",
  "",
  "",
  "\t// less than / greater than",
  "\tinline bool Vector9d::operator< (const Vector9d& other) const noexcept \x7b",
  "\t\treturn a < other.a && b < other.b&& c < other.c&& d < other.d&& e < other.e&& f < " ++
    "other.f&& g < other.g&& h < other.h&& i < other.i;",
  "\t\x7d",
  "",
  "\tinline bool Vector9d::operator<= (const Vector9d& other) const noexcept \x7b",
  "\t\treturn a <= other.a && b <= other.b && c <= other.c && d <= other.d && e <= other.e && f " ++
    "<= other.f && g <= other.g && h <= other.h && i <= other.i;",
  "\t\x7d",
  "",
  "\tinline bool Vector9d::operator>  (const Vector9d& other) const noexcept \x7b",
  "\t\treturn a > other.a && b > other.b && c > other.c && d > other.d && e > other.e && f > " ++
    "other.f && g > other.g && h > other.h && i > other.i;",
  "\t\x7d",
  "",
  "\tinline bool Vector9d::operator>= (const Vector9d& other) const noexcept \x7b",
  "\t\treturn a >= other.a && b >= other.b && c >= other.c && d >= other.d && e >= other.e && f " ++
    ">= other.f && g >= other.g && h >= other.h && i >= other.i;",
  "\t\x7d",
  "",
  "",
  "\tinline bool Vector9d::operator<  (const std::double_t& number) const noexcept \x7b",
  "\t\treturn a < number && b < number && c < number && d < number && e < number && f < number " ++
    "&& g < number && h < number && i < number;",
  "\t\x7d",
  "",
  "\tinline bool Vector9d::operator<= (const std::double_t& number) const noexcept \x7b",
  "\t\treturn a <= number && b <= number && c <= number && d <= number && e <= number && f <= " ++
    "number && g <= number && h <= number && i <= number;",
  "\t\x7d",
  "",
  "\tinline bool Vector9d::operator>  (const std::double_t& number) const noexcept \x7b",
  "\t\treturn a > number && b > number && c > number && d > number && e > number && f > number " ++
    "&& g > number && h > number && i > number;",
  "\t\x7d",
  "",
  "\tinline bool Vector9d::operator>= (const std::double_t& number) const noexcept \x7b",
  "\t\treturn a >= number && b >= number && c >= number && d >= number && e >= number && f >= " ++
    "number && g >= number && h >= number && i >= number;",
  "\t\x7d",
  "",
  "",
  "\t// equal / not equal",
  "\tinline bool Vector9d::operator==(const Vector9d& other) const noexcept \x7b",
  "\t\treturn a == other.a && b == other.b && c == other.c && d == other.d && e == other.e && f " ++
    "== other.f && g == other.g && h == other.h && i == other.i;",
  "\t\x7d",
  "",
  "\tinline bool Vector9d::operator!=(const Vector9d& other) const noexcept \x7b",
  "\t\treturn a != other.a || b != other.b || c != other.c || d != other.d || e != other.e || f " ++
    "!= other.f || g != other.g || h != other.h || i != other.i;",
  "\t\x7d",
  "",
  "\tinline bool Vector9d::operator==(const std::double_t& number) const noexcept \x7b",
  "\t\treturn a == number && b == number && c == number && d == number && e == number && f == " ++
    "number && g == number && h == number && i == number;",
  "\t\x7d",
  "",
  "\tinline bool Vector9d::operator!=(const std::double_t& number) const noexcept \x7b",
  "\t\treturn a != number || b != number || c != number || d != number || e != number || f != " ++
    "number || g != number || h != number || i != number;",
  "\t\x7d",
  "",
  "",
  "\tinline constexpr std::uint8_t Vector9d::size() const noexcept \x7b return 9; \x7d",
  "\tinline void Vector9d::reset(const std::double_t& stnd_value) noexcept \x7b",
  "\t\tfor (std::uint8_t i = 0; i < size(); ++i)",
  "\t\t\tthis->at(i) = stnd_value;",
  "\t\x7d",
  "",
  "\tinline std::double_t& Vector9d::operator[](const std::uint8_t& index) noexcept \x7b",
  "\t\treturn at(index);",
  "\t\x7d",
  "\tinline std::double_t& Vector9d::at(const std::uint8_t& index) noexcept",
  "\t\x7b",
  "\t\tstd::double_t* ptr = &a;",
  "\t\tif (index > 8)",
  "\t\t\treturn ptr[0];",
  "\t\treturn ptr[index];",
  "\t\x7d",
  "",
  "",
  ""]

def implementation10 : List String := [
  "\t// Vector10d",
  "\tinline Vector10d::Vector10d(const std::double_t& a, const std::double_t& b, const " ++
    "std::double_t& c, const std::double_t& d,",
  "\t\tconst std::double_t& e, const std::double_t& f, const std::double_t& g, const " ++
    "std::double_t& h,",
  "\t\tconst std::double_t& i, const std::double_t& j) noexcept",
  "\t\t: a(a), b(b), c(c), d(d), e(e), f(f), g(g), h(h), i(i), j(j) \x7b\x7d",
  "",
  "\t// copy/move constructor and assignment",
  "\tinline Vector10d::Vector10d(const Vector10d& other) noexcept \x7b",
  "\t\ta = other.a; b = other.b; c = other.c; d = other.d; e = other.e; f = other.f; g = " ++
    "other.g; h = other.h; i = other.i; j = other.j;",
  "\t\x7d",
  "",
  "\tinline Vector10d& Vector10d::operator=(const Vector10d& other) noexcept \x7b",
  "\t\ta = other.a; b = other.b; c = other.c; d = other.d; e = other.e; f = other.f; g = " ++
    "other.g; h = other.h; i = other.i; j = other.j; return *this;",
  "\t\x7d",
  "",
  "\tinline Vector10d::Vector10d(Vector10d&& other) noexcept \x7b",
  "\t\ta = other.a; b = other.b; c = other.c; d = other.d; e = other.e; f = other.f; g = " ++
    "other.g; h = other.h; i = other.i; j = other.j;",
  "\t\x7d",
  "",
  "\tinline Vector10d& Vector10d::operator=(Vector10d&& other) noexcept \x7b",
  "\t\ta = other.a; b = other.b; c = other.c; d = other.d; e = other.e; f = other.f; g = " ++
    "other.g; h = other.h; i = other.i; j = other.j; return *this;",
  "\t\x7d",
  "\t// .....................................",
  "\tinline Vector10d& Vector10d::operator=(const std::double_t& number) noexcept \x7b",
  "\t\ta = number; b = number; c = number; d = number; e = number; f = number; g = number; h = " ++
    "number; i = number; j = number; return *this;",
  "\t\x7d",
  "",
  "",
  "\tinline Vector10d Vector10d::operator +(const Vector10d& v) const noexcept \x7b",
  "\t\treturn \x7b a + v.a, b + v.b, c + v.c, d + v.d, e + v.e, f + v.f, g + v.g, h + v.h, i + " ++
    "v.i, j + v.j \x7d;",
  "\t\x7d",
  "",
  "\tinline Vector10d Vector10d::operator -(const Vector10d& v) const noexcept \x7b",
  "\t\treturn \x7b a - v.a, b - v.b, c - v.c, d - v.d, e - v.e, f - v.f, g - v.g, h - v.h, i - " ++
    "v.i, j - v.j \x7d;",
  "\t\x7d",
  "",
  "\tinline Vector10d Vector10d::operator *(const Vector10d& v) const noexcept \x7b",
  "\t\treturn \x7b a * v.a, b * v.b, c * v.c, d * v.d, e * v.e, f * v.f, g * v.g, h * v.h, i * " ++
    "v.i, j * v.j \x7d;",
  "\t\x7d",
  "",
  "\tinline Vector10d Vector10d::operator /(const Vector10d& v) const noexcept \x7b",
  "\t\treturn \x7b a / v.a, b / v.b, c / v.c, d / v.d, e / v.e, f / v.f, g / v.g, h / v.h, i / " ++
    "v.i, j / v.j \x7d;",
  "\t\x7d",
  "",
  "",
  "\tinline Vector10d Vector10d::operator +(const std::double_t& number) const noexcept \x7b",
  "\t\treturn \x7b a + number, b + number, c + number, d + number, e + number, f + number, g + " ++
    "number, h + number, i + number, j + number \x7d;",
  "\t\x7d",
  "",
  "\tinline Vector10d Vector10d::operator -(const std::double_t& number) const noexcept \x7b",
  "\t\treturn \x7b a - number, b - number, c - number, d - number, e - number, f - number, g - " ++
    "number, h - number, i - number, j - number \x7d;",
  "\t\x7d",
  "",
  "\tinline Vector10d Vector10d::operator *(const std::double_t& number) const noexcept \x7b",
  "\t\treturn \x7b a * number, b * number, c * number, d * number, e * number, f * number, g * " ++
    "number, h * number, i * number, j * number \x7d;",
  "\t\x7d",
  "",
  "\tinline Vector10d Vector10d::operator /(const std::double_t& number) const noexcept \x7b",
  "\t\treturn \x7b a / number, b / number, c / number, d / number, e / number, f / number, g / " ++
    "number, h / number, i / number, j / number \x7d;",
  "\t\x7d",
  "",
  "",
  "\t// increment / decrement",
  "\tinline Vector10d& Vector10d::operator++ () noexcept \x7b",
  "\t\t++a; ++b; ++c; ++d; ++e; ++f; ++g; ++h; ++i; ++j;",
  "\t\treturn *this;",
  "\t\x7d",
  "",
  "\tinline Vector10d& Vector10d::operator-- () noexcept \x7b",
  "\t\t--a; --b; --c; --d; --e; --f; --g; --h; --i; --j;",
  "\t\treturn *this;",
  "\t\x7d",
  "",
  "\tinline Vector10d Vector10d::operator++ (int) noexcept \x7b",
  "\t\tVector10d temp = *this;",
  "\t\t++* this;",
  "\t\treturn temp;",
  "\t\x7d",
  "",
  "\tinline Vector10d Vector10d::operator-- (int) noexcept \x7b",
  "\t\tVector10d temp = *this;",
  "\t\t--* this;",
  "\t\treturn temp;",
  "\t\x7d",
  "",
  "",
  "\t// assignments",
  "\tinline Vector10d& Vector10d::operator+= (const Vector10d& right) noexcept \x7b",
  "\t\ta += right.a; b += right.b; c += right.c; d += right.d; e += right.e; f += right.f; g += " ++
    "right.g; h += right.h; i += right.i; j += right.j;",
  "\t\treturn *this;",
  "\t\x7d",
  "",
  "\tinline Vector10d& Vector10d::operator-= (const Vector10d& right) noexcept \x7b",
  "\t\ta -= right.a; b -= right.b; c -= right.c; d -= right.d; e -= right.e; f -= right.f; g -= " ++
    "right.g; h -= right.h; i -= right.i; j -= right.j;",
  "\t\treturn *this;",
  "\t\x7d",
  "",
  "\tinline Vector10d& Vector10d::operator*= (const Vector10d& right) noexcept \x7b",
  "\t\ta *= right.a; b *= right.b; c *= right.c; d *= right.d; e *= right.e; f *= right.f; g *= " ++
    "right.g; h *= right.h; i *= right.i; j *= right.j;",
  "\t\treturn *this;",
  "\t\x7d",
  "",
  "\tinline Vector10d& Vector10d::operator/= (const Vector10d& right) noexcept \x7b",
  "\t\ta /= right.a; b /= right.b; c /= right.c; d /= right.d; e /= right.e; f /= right.f; g /= " ++
    "right.g; h /= right.h; i /= right.i; j /= right.j;",
  "\t\treturn *this;",
  "\t\x7d",
  "",
  "",
  "\tinline Vector10d& Vector10d::operator+= (const std::double_t& number) noexcept \x7b",
  "\t\ta += number; b += number; c += number; d += number; e += number; f += number; g += " ++
    "number; h += number; i += number; j += number;",
  "\t\treturn *this;",
  "\t\x7d",
  "",
  "\tinline Vector10d& Vector10d::operator-= (const std::double_t& number) noexcept \x7b",
  "\t\ta -= number; b -= number; c -= number; d -= number; e -= number; f -= number; g -= " ++
    "number; h -= number; i -= number; j -= number;",
  "\t\treturn *this;",
  "\t\x7d",
  "",
  "\tinline Vector10d& Vector10d::operator*= (const std::double_t& number) noexcept \x7b",
  "\t\ta *= number; b *= number; c *= number; d *= number; e *= number; f *= number; g *= " ++
    "number; h *= number; i *= number; j *= number;",
  "\t\treturn *this;",
  "\t\x7d",
  "",
  "\tinline Vector10d& Vector10d::operator/= (const std::double_t& number) noexcept \x7b",
  "\t\ta /= number; b /= number; c /= number; d /= number; e /= number; f /= number; g /= " ++
    "number; h /= number; i /= number; j /= number;",
  "\t\treturn *this;",
  "\t\x7d",
  "",
  "",
  "\t// less than / greater than",
  "\tinline bool Vector10d::operator< (const Vector10d& other) const noexcept \x7b",
  "\t\treturn a < other.a && b < other.b&& c < other.c&& d < other.d&& e < other.e&& f < " ++
    "other.f&& g < other.g&& h < other.h&& i < other.i&& j < other.j;",
  "\t\x7d",
  "",
  "\tinline bool Vector10d::operator<= (const Vector10d& other) const noexcept \x7b",
  "\t\treturn a <= other.a && b <= other.b && c <= other.c && d <= other.d && e <= other.e && f " ++
    "<= other.f && g <= other.g && h <= other.h && i <= other.i && j <= other.j;",
  "\t\x7d",
  "",
  "\tinline bool Vector10d::operator>  (const Vector10d& other) const noexcept \x7b",
  "\t\treturn a > other.a && b > other.b && c > other.c && d > other.d && e > other.e && f > " ++
    "other.f && g > other.g && h > other.h && i > other.i && j > other.j;",
  "\t\x7d",
  "",
  "\tinline bool Vector10d::operator>= (const Vector10d& other) const noexcept \x7b",
  "\t\treturn a >= other.a && b >= other.b && c >= other.c && d >= other.d && e >= other.e && f " ++
    ">= other.f && g >= other.g && h >= other.h && i >= other.i && j >= other.j;",
  "\t\x7d",
  "",
  "",
  "\tinline bool Vector10d::operator<  (const std::double_t& number) const noexcept \x7b",
  "\t\treturn a < number && b < number && c < number && d < number && e < number && f < number " ++
    "&& g < number && h < number && i < number && j < number;",
  "\t\x7d",
  "",
  "\tinline bool Vector10d::operator<= (const std::double_t& number) const noexcept \x7b",
  "\t\treturn a <= number && b <= number && c <= number && d <= number && e <= number && f <= " ++
    "number && g <= number && h <= number && i <= number && j <= number;",
  "\t\x7d",
  "",
  "\tinline bool Vector10d::operator>  (const std::double_t& number) const noexcept \x7b",
  "\t\treturn a > number && b > number && c > number && d > number && e > number && f > number " ++
    "&& g > number && h > number && i > number && j > number;",
  "\t\x7d",
  "",
  "\tinline bool Vector10d::operator>= (const std::double_t& number) const noexcept \x7b",
  "\t\treturn a >= number && b >= number && c >= number && d >= number && e >= number && f >= " ++
    "number && g >= number && h >= number && i >= number && j >= number;",
  "\t\x7d",
  "",
  "",
  "\t// equal / not equal",
  "\tinline bool Vector10d::operator==(const Vector10d& other) const noexcept \x7b",
  "\t\treturn a == other.a && b == other.b && c == other.c && d == other.d && e == other.e && f " ++
    "== other.f && g == other.g && h == other.h && i == other.i && j == other.j;",
  "\t\x7d",
  "",
  "\tinline bool Vector10d::operator!=(const Vector10d& other) const noexcept \x7b",
  "\t\treturn a != other.a || b != other.b || c != other.c || d != other.d || e != other.e || f " ++
    "!= other.f || g != other.g || h != other.h || i != other.i || j != other.j;",
  "\t\x7d",
  "",
  "\tinline bool Vector10d::operator==(const std::double_t& number) const noexcept \x7b",
  "\t\treturn a == number && b == number && c == number && d == number && e == number && f == " ++
    "number && g == number && h == number && i == number && j == number;",
  "\t\x7d",
  "",
  "\tinline bool Vector10d::operator!=(const std::double_t& number) const noexcept \x7b",
  "\t\treturn a != number || b != number || c != number || d != number || e != number || f != " ++
    "number || g != number || h != number || i != number || j != number;",
  "\t\x7d",
  "",
  "",
  "\tinline constexpr std::uint8_t Vector10d::size() const noexcept \x7b return 10; \x7d",
  "\tinline void Vector10d::reset(const std::double_t& stnd_value) noexcept \x7b",
  "\t\tfor (std::uint8_t i = 0; i < size(); ++i)",
  "\t\t\tthis->at(i) = stnd_value;",
  "\t\x7d",
  "",
  "\tinline std::double_t& Vector10d::operator[](const std::uint8_t& index) noexcept \x7b",
  "\t\treturn at(index);",
  "\t\x7d",
  "\tinline std::double_t& Vector10d::at(const std::uint8_t& index) noexcept",
  "\t\x7b",
  "\t\tstd::double_t* ptr = &a;",
  "\t\tif (index > 9)",
  "\t\t\treturn ptr[0];",
  "\t\treturn ptr[index];",
  "\t\x7d"]

/-- What stands behind the last section. -/
def implementationEnd : List String := [
  "\t// End",
  "\x7d"]

/-- The lines of the implementation. -/
def implementationLines : List String :=
  implementationStart ++ implementation2 ++ implementation3 ++ implementation4 ++
    implementation5 ++ implementation6 ++ implementation7 ++ implementation8 ++
    implementation9 ++ implementation10 ++ implementationEnd

def implementation : String := "\n".intercalate implementationLines

end VectorFamily.Builtin
