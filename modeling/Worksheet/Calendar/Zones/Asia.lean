import Worksheet.Calendar.ZoneEntry

/-!
# Zones: Asia and the Indian Ocean

One entry for each zone of the time zone database, in the order of their names.
-/

namespace Worksheet.Zones

def asia : List ZoneEntry := [
  ⟨"Asia/Almaty", [⟨"LMT", 18468⟩, ⟨"+05", 18000⟩, ⟨"+07", 25200⟩, ⟨"+06", 21600⟩],
    ["16bgli4B37a0d0Dqi27w0C9et80D9d440C9et80D9d440C9et80D9eys0C9d6w0D9d1c0C9d1c0D9d1c0C9d1c0D",
     "9d1c0C9d1c0D9d1c0C9d1c0D9d1c0C9d1c0D9d1c0C9q000D9d1c0D9d440B5reo0D3ljw0C9d1c0D9d1c0C9d1c0D",
     "9d1c0C9d1c0D9d1c0C9d1c0D9q000Casw00D7x6o0Casw00D7x6o0Casw00D7x6o0Cb5uo0D7k800Cb5uo0D7k800C",
     "b5uo0D7x6o0Casw00D7x6o0Casw00D7x6o0Cb5uo0Da37rs0B"],
    .steady ⟨"+05", 18000⟩⟩,
  ⟨"Asia/Amman", [⟨"LMT", 8624⟩, ⟨"EEST", 10800⟩, ⟨"EET", 7200⟩, ⟨"+03", 10800⟩],
    ["19sq2fkCm566fkB60l80Cawo40B7v980Cawo40B7v980Cayis0B9gnw0C9b9g0B7v980Cautg0B7v980C3e6840B",
     "9et80C9io40B9cyk0C9d440B9cyk0C9d440B9px80Cayis0B7rjw0Cag040B8a2k0C9zc40B8drw0Ca31g0B8zzw0C",
     "9d440B9cyk0C9d440B8n180Cag040B8a5c0Cafxc0B8n400Ca2yo0B8n400Ca2yo0B8n400Cepmo0B4deo0C9o5c0B",
     "9ew00C9b6o0B9ew00C9d1c0B9d1c0C9d1c0Basw00C7x6o0Bafxc0C8n400B9d1c0C9d1c0Basw00C7x6o0Basw00C",
     "7x6o0Bb5uo0C7k800Bb5uo0C7k800Bb5uo0C7x6o0Basw00C7x6o0Bwel80C51k40Bb5uo0C7k800Bb5uo0C7x6o0B",
     "asw00C7x6o0Basw00C7x6o0Basw00C7x6o0Basw00C7x6o0Bb5uo0C7k800Bb5uo0C64dc0Bclpc0D"],
    .steady ⟨"+03", 10800⟩⟩,
  ⟨"Asia/Anadyr", [⟨"LMT", 42596⟩, ⟨"+12", 43200⟩, ⟨"+14", 50400⟩, ⟨"+13", 46800⟩, ⟨"+11", 39600⟩],
    ["16bg2vwB379zj8Dqi27w0C9et80D9d440D9ew00B9d440D9et80B9eys0D9d6w0B9d1c0D9d1c0B9d1c0D9d1c0B",
     "9d1c0D9d1c0B9d1c0D9d1c0B9d1c0D9d1c0B9d1c0D9q000B9d1c0B9d440E5reo0B3ljw0D9d1c0B9d1c0D9d1c0B",
     "9d1c0D9d1c0B9d1c0D9d1c0B9q000Dasw00B7x6o0Dasw00B7x6o0Dasw00B7x6o0Db5uo0B7k800Db5uo0B7k800D",
     "b5uo0B7x6o0Dasw00B7x6o0Dasw00B7x6o0Db5uo0B7k800Db5uo0B7k800Db5uo0B7k800Db5uo0B7x6o0Dasw00B",
     "7x6o0Dasw00B7x6o0Bb5xg0E7k800B"],
    .steady ⟨"+12", 43200⟩⟩,
  ⟨"Asia/Aqtau", [⟨"LMT", 12064⟩, ⟨"+04", 14400⟩, ⟨"+05", 18000⟩, ⟨"+06", 21600⟩],
    ["16bgqg0B379y74Cqrh3w0D9cyk0D9ew00C9d440D9et80C9eys0D9d6w0C9d1c0D9d1c0C9d1c0D9d1c0C9d1c0D",
     "9d1c0C9d1c0D9d1c0C9d1c0D9d1c0C9d1c0D9q000C9d1c0C9d440B5reo0C3ljw0D9d1c0C9d1c0D9d1c0C9d1c0D",
     "9d1c0B9d440C9d1c0B9q000Casw00B7x6o0Casw00B7x6o0Casw00B7x6o0Cb5uo0B7k800Cb5uo0B7k800Cb5uo0B",
     "7x6o0Casw00B7x6o0Casw00B7x6o0Cb5uo0C"],
    .steady ⟨"+05", 18000⟩⟩,
  ⟨"Asia/Aqtobe", [⟨"LMT", 13720⟩, ⟨"+04", 14400⟩, ⟨"+05", 18000⟩, ⟨"+06", 21600⟩],
    ["16bgp60B379zh4Cqi27w0D9et80D9d1c0D9ew00C9d440D9et80C9eys0D9d6w0C9d1c0D9d1c0C9d1c0D9d1c0C",
     "9d1c0D9d1c0C9d1c0D9d1c0C9d1c0D9d1c0C9d1c0D9q000C9d1c0C9d440B5reo0C3ljw0D9d1c0C9d1c0D9d1c0C",
     "9d1c0D9d1c0C9d1c0D9d1c0C9q000Dasw00C7x6o0Dasw00C7x6o0Dasw00C7x6o0Db5uo0C7k800Db5uo0C7k800D",
     "b5uo0C7x6o0Dasw00C7x6o0Dasw00C7x6o0Db5uo0C"],
    .steady ⟨"+05", 18000⟩⟩,
  ⟨"Asia/Ashgabat", [⟨"LMT", 14012⟩, ⟨"+04", 14400⟩, ⟨"+06", 21600⟩, ⟨"+05", 18000⟩],
    ["16bgoxwB379zp8Dqi27w0C9et80D9d440C9et80D9d440C9et80D9eys0C9d6w0D9d1c0C9d1c0D9d1c0C9d1c0D",
     "9d1c0C9d1c0D9d1c0C9d1c0D9d1c0C9d1c0D9d1c0C9q000D9d1c0D9d440B5reo0D"],
    .steady ⟨"+05", 18000⟩⟩,
  ⟨"Asia/Atyrau", [⟨"LMT", 12464⟩, ⟨"+03", 10800⟩, ⟨"+05", 18000⟩, ⟨"+06", 21600⟩, ⟨"+04", 14400⟩],
    ["16bgq4wB37a1a8Cqrh140D9cyk0D9ew00C9d440D9et80C9eys0D9d6w0C9d1c0D9d1c0C9d1c0D9d1c0C9d1c0D",
     "9d1c0C9d1c0D9d1c0C9d1c0D9d1c0C9d1c0D9q000C9d1c0C9d440E5reo0C3ljw0D9d1c0C9d1c0D9d1c0C9d1c0D",
     "9d1c0C9d1c0D9d1c0C9q000Dasw00C7x6o0Dasw00C7x6o0Dasw00C7x6o0Cb5xg0E7k800Cb5uo0E7k800Cb5uo0E",
     "7x6o0Casw00E7x6o0Casw00E7x6o0Cb5uo0C"],
    .steady ⟨"+05", 18000⟩⟩,
  ⟨"Asia/Baghdad", [⟨"LMT", 10660⟩, ⟨"BMT", 10656⟩, ⟨"+03", 10800⟩, ⟨"+04", 14400⟩],
    ["oege70Bem11c4Cxkn3w0D7v980C9b9g0D9gnw0C9eys0D9et80C9d440D9b9g0C9d1c0D9d1c0C9d1c0D9d1c0C",
     "9d1c0D9d1c0C9d1c0D9d1c0C9d1c0D9q000C9f1k0D9ew00C9ew00D9ew00C9d1c0D9ew00C9d1c0D9ew00C9d1c0D",
     "9ew00C9ew00D9ew00C9d1c0D9ew00C9d1c0D9ew00C9d1c0D9ew00C9ew00D9ew00C9d1c0D9ew00C9d1c0D9ew00C",
     "9d1c0D9ew00C9ew00D9ew00C9d1c0D9ew00C9d1c0D9ew00C9d1c0D9ew00C"],
    .steady ⟨"+03", 10800⟩⟩,
  ⟨"Asia/Baku", [⟨"LMT", 11964⟩, ⟨"+03", 10800⟩, ⟨"+05", 18000⟩, ⟨"+04", 14400⟩],
    ["16bgqisBh4tkwcDckinw0C9et80D9d440C9et80D9d440C9et80D9eys0C9d6w0D9d1c0C9d1c0D9d1c0C9d1c0D",
     "9d1c0C9d1c0D9d1c0C9d1c0D9d1c0C9d1c0D9d1c0C9q000D9d1c0D9d440B9d1c0D9d1c0D1twdk0Casw00D7x3w0C",
     "asw00D7x6o0Casw00D7x6o0Cb5uo0D7k800Cb5uo0D7k800Cb5uo0D7x6o0Casw00D7x6o0Casw00D7x6o0Cb5uo0D",
     "7k800Cb5uo0D7k800Cb5uo0D7k800Cb5uo0D7x6o0Casw00D7x6o0Casw00D7x6o0Cb5uo0D7k800Cb5uo0D7k800C",
     "b5uo0D7x6o0Casw00D7x6o0Casw00D7x6o0Casw00D"],
    .steady ⟨"+04", 14400⟩⟩,
  ⟨"Asia/Bangkok", [⟨"LMT", 24124⟩, ⟨"BMT", 24124⟩, ⟨"+07", 25200⟩],
    ["j6jah0Bl06800C"],
    .steady ⟨"+07", 25200⟩⟩,
  ⟨"Asia/Barnaul", [⟨"LMT", 20100⟩, ⟨"+06", 21600⟩, ⟨"+08", 28800⟩, ⟨"+07", 25200⟩],
    ["140wc8sB5hu6ucDqi27w0C9et80D9d440C9et80D9d440C9et80D9eys0C9d6w0D9d1c0C9d1c0D9d1c0C9d1c0D",
     "9d1c0C9d1c0D9d1c0C9d1c0D9d1c0C9d1c0D9d1c0C9q000D9d1c0D9d440B5reo0D3ljw0C9d1c0D9d1c0C9d1c0D",
     "9d1c0C9d1c0D9d1c0C38fo0D64og0B9q000Dasw00B7x6o0Dasw00B7x6o0Dasw00B7x6o0Db5uo0B7k800Db5uo0B",
     "7k800Db5uo0B7x6o0Dasw00B7x6o0Dasw00B7x6o0Db5uo0B7k800Db5uo0B7k800Db5uo0B7k800Db5uo0B7x6o0D",
     "asw00B7x6o0Dasw00B7x6o0Db5uo0B7k800D1vbzw0Bqnc40D"],
    .steady ⟨"+07", 25200⟩⟩,
  ⟨"Asia/Beirut", [⟨"LMT", 8520⟩, ⟨"EEST", 10800⟩, ⟨"EET", 7200⟩],
    ["j6jmigCkzyucoBaunw0C88dg0B9et80C8yas0Ba2vw0Ca31g0B7k580Chjqo40B7v980Cawo40B7v980Cawo40B",
     "7v980Cayis0B7v980Cawo40B7v980C5lhs40B56yk0Cawo40B7v980Cawo40B7v980Cawo40B7v980Cayis0B7v980C",
     "awo40B7v980Cautg0B7v980C2wxus0B8n180Ca4w40B8n180Ca4w40B8n180Ca4w40B8n180Cbs5g0B71mk0Calk40B",
     "86d80Ca4w40B8n180Ca4w40B8n180Ca6qs0B80t80C905g0B9cyk0C9d440B9cyk0C9d440B9cyk0C9q2s0B9cyk0C",
     "9d440B9cyk0C9d440B9cyk0C9d440B"],
    .seasonal ⟨"EET", 7200⟩ ⟨"EEST", 10800⟩ ⟨3, 5, 0, 0⟩ ⟨10, 5, 0, 0⟩⟩,
  ⟨"Asia/Bishkek", [⟨"LMT", 17904⟩, ⟨"+05", 18000⟩, ⟨"+07", 25200⟩, ⟨"+06", 21600⟩],
    ["16bglxsB379zxcDqi27w0C9et80D9d440C9et80D9d440C9et80D9eys0C9d6w0D9d1c0C9d1c0D9d1c0C9d1c0D",
     "9d1c0C9d1c0D9d1c0C9d1c0D9d1c0C9d1c0D9d1c0C9q000D9d1c0D7vc00Bbkl80D8n180Ba31g0D8n180Ba31g0D",
     "8n180Ba31g0D8n180Ba31g0D8zzw0B9db20Dast80B7x9g0Dast80B7x9g0Db5rw0B7kas0Db5rw0B7kas0Db5rw0B",
     "7x9g0Dast80B7x9g0Dast80B7x9g0Db5rw0B7kas0D73aa0D"],
    .steady ⟨"+06", 21600⟩⟩,
  ⟨"Asia/Chita", [⟨"LMT", 27232⟩, ⟨"+08", 28800⟩, ⟨"+10", 36000⟩, ⟨"+09", 32400⟩],
    ["1415g2oB5hkxggDqi27w0C9et80D9d440C9et80D9d440C9et80D9eys0C9d6w0D9d1c0C9d1c0D9d1c0C9d1c0D",
     "9d1c0C9d1c0D9d1c0C9d1c0D9d1c0C9d1c0D9d1c0C9q000D9d1c0D9d440B5reo0D3ljw0C9d1c0D9d1c0C9d1c0D",
     "9d1c0C9d1c0D9d1c0C9d1c0D9q000Casw00D7x6o0Casw00D7x6o0Casw00D7x6o0Cb5uo0D7k800Cb5uo0D7k800C",
     "b5uo0D7x6o0Casw00D7x6o0Casw00D7x6o0Cb5uo0D7k800Cb5uo0D7k800Cb5uo0D7k800Cb5uo0D7x6o0Casw00D",
     "7x6o0Casw00D7x6o0Cb5uo0D7k800C1vbzw0Bqnew0D"],
    .steady ⟨"+09", 32400⟩⟩,
  ⟨"Asia/Colombo", [⟨"LMT", 19164⟩, ⟨"MMT", 19172⟩, ⟨"+0530", 19800⟩, ⟨"+06", 21600⟩,
      ⟨"+0630", 23400⟩],
    ["j6jeasBdkh6nsCisle6kDcajy0E1mp2u0Cqetjw0E7x5a0D4xvqq0C"],
    .steady ⟨"+0530", 19800⟩⟩,
  ⟨"Asia/Damascus", [⟨"LMT", 8712⟩, ⟨"EEST", 10800⟩, ⟨"EET", 7200⟩, ⟨"+03", 10800⟩],
    ["1421bp4C5k6q0B8n180Ca31g0B8n180Ca31g0B8n180Ca31g0B8zzw0Ck4hk40B7yyk0Cawo40B7tek0Cb0dg0B",
     "7v980Cawo40B7tek0Calk40B887w0Cawo40B7v980Cayis0B7v980Cawo40B7v980Cawo40B7v980Cawo40B7v980C",
     "ayis0B7v980Cawo40B7v980Cawo40B7v980Cawo40B7v980Cayis0B7v980Cawo40B6bp80Ccg840B6bp80C2eh1g0B",
     "8zzw0C9ts40B8zzw0Cpvk40Bc33w0C7cw40Bcjrw0C6zxg0Bbtuk0C7rpg0B9gnw0C9d440B9cyk0C9et80B9et80C",
     "9rxg0B91uk0C92040B9et80C9o840B9et80C9d440B9et80C9eys0B9et80C9b9g0B9gnw0C99es0B9iik0C9d440B",
     "9et80C9eys0B9et80C9d440B9et80C9d440B9et80C9d440B9et80C9eys0B9et80C9d440B9et80C9d440B8y580C",
     "9q2s0Bb5rw0C7x9g0Baunw0C7ig40Bb5rw0C7x9g0Bast80C7x9g0Bast80C7x9g0Bast80C7x9g0Bast80C7x9g0B",
     "b5rw0C7kas0Bb5rw0C7kas0Bb5rw0C7x9g0Bast80C7x9g0Bast80C7x9g0Bast80C7x9g0Bb5rw0C7kas0Bb5rw0C",
     "7kas0Bb5rw0D"],
    .steady ⟨"+03", 10800⟩⟩,
  ⟨"Asia/Dhaka", [⟨"LMT", 21700⟩, ⟨"HMT", 21200⟩, ⟨"+0630", 23400⟩, ⟨"+0530", 19800⟩,
      ⟨"+06", 21600⟩, ⟨"+07", 25200⟩],
    ["oeg5ocBr080dwCbmgywD5lxg0C4qknw0Eu4ijy0Fa1400E"],
    .steady ⟨"+06", 21600⟩⟩,
  ⟨"Asia/Dili", [⟨"LMT", 30140⟩, ⟨"+08", 28800⟩, ⟨"+09", 32400⟩],
    ["zvps74Bfqct80Chufs00Bcpz440C"],
    .steady ⟨"+09", 32400⟩⟩,
  ⟨"Asia/Dubai", [⟨"LMT", 13272⟩, ⟨"+04", 14400⟩],
    ["142186gB"],
    .steady ⟨"+04", 14400⟩⟩,
  ⟨"Asia/Dushanbe", [⟨"LMT", 16512⟩, ⟨"+05", 18000⟩, ⟨"+07", 25200⟩, ⟨"+06", 21600⟩],
    ["16bgn0gB379yuoDqi27w0C9et80D9d440C9et80D9d440C9et80D9eys0C9d6w0D9d1c0C9d1c0D9d1c0C9d1c0D",
     "9d1c0C9d1c0D9d1c0C9d1c0D9d1c0C9d1c0D9d1c0C9q000D9d1c0D8c2s0B"],
    .steady ⟨"+05", 18000⟩⟩,
  ⟨"Asia/Famagusta", [⟨"LMT", 8148⟩, ⟨"EEST", 10800⟩, ⟨"EET", 7200⟩, ⟨"+03", 10800⟩],
    ["15165gsCrvhy2cB9cyk0Cb42s0B7nuk0C8yas0B8zzw0C9q2s0B9et80C9b9g0B9cyk0C9q2s0B8zzw0C9d440B",
     "9cyk0C9d440B9cyk0C9d440B9cyk0C9d440B9px80C9d440B9cyk0C9d440B9cyk0C9d440B9cyk0C9d440B9cyk0C",
     "9d440B9cyk0C9d440B9px80C9d440B9cyk0C9d440B9cyk0C9d440B9cyk0C9d440B9cyk0C9d440B9cyk0C9q2s0B",
     "9cyk0C9d440B9cyk0C9d440Bat4c0C7x6o0Bb5uo0C7k800Bb5uo0C7k800Bb5uo0C7x6o0Basw00C7x6o0Basw00C",
     "7x6o0Bb5uo0C7k800Bb5uo0C7k800Bb5uo0C7k800Bb5uo0C7x6o0Basw00C7x6o0Basw00C7x6o0Bb5uo0C7k800B",
     "b5uo0C7k800Bb5uo0C7x6o0Basw00C7x6o0Basw00C7x6o0Basw00C7x6o0B8h8w0Dleog0C"],
    .seasonal ⟨"EET", 7200⟩ ⟨"EEST", 10800⟩ ⟨3, 5, 0, 10800⟩ ⟨10, 5, 0, 14400⟩⟩,
  ⟨"Asia/Gaza", [⟨"LMT", 8272⟩, ⟨"EEST", 10800⟩, ⟨"EET", 7200⟩, ⟨"IDT", 10800⟩, ⟨"IST", 7200⟩],
    ["u0cypcCkp9t1sB69xc0C2f1c0B10q800C7rmo0Bb0ao0C7thc0Bb0ao0C8jeo0Ba8io0C8jeo0Ba8io0C5hoig0B",
     "7el80Cawo40B7v980Cawqw0B7tk40Cb07w0B7tk40Cayd80B7tk40Cayd80B7tk40Cayd80B7tk40Cb07w0B7tk40C",
     "ayd80B7tk40Cayd80B7ves0Cawik0B1sns0E3p6is0D51ek0E9q2s0D6u7w0E2kjk40D25s00E1weyo0D5reo0E",
     "bvs00D776k0Edbpg0D5rbw0Ebbhg0D7rjw0Easys0D7k580Ec8tg0D6h980Eag040D7x3w0Easys0D8a2k0Easys0D",
     "8a2k0Eap9g0D80t80Eap9g0D7nuk0Eb2840D80t80E66as0C4vxc0B8n400Ca2yo0B8n400Ca2yo0B8n400Casw00B",
     "9cyk0C9q2s0B9cyk0C9d440B9cyk0C9d440B9cyk0C9d440B9cyk0C9d440B8n400Ca2yo0B8ulg0C97ek0B8y580C",
     "9ts40B8hms0Ca4qk0B7x3w0Casys0B8a5c0Cahs1oB71micCbzk5oB69uicCcg840B902o0C9q000B9cyk0C9d440B",
     "ast80C7z440Bar1c0C7z440Bb5rw0C7kas0Bb5rw0C7kas0Bb5rw0C7vc00Baunw0C7x9g0Basw00C7x6o0Bb4000C",
     "7nxc0Bb42s0C9d440B9cyk0C905g0B9px80C8n6s0Ba2vw0C7x9g0Bast80C7x9g0Bb5rw0C7kas0Bb5rw0C7kas0B",
     "b5rw0C7x9g0Bast80C7x9g0Bast80C7x9g0Bb5rw0C7kas0Bb5rw0C7kas0Bb5rw0C7kas0Bb5rw0C7x9g0Bafuk0C",
     "8a840Ba2vw0C8n6s0B9cyk0C9d440B8zzw0C9q2s0B8a2k0C2itg0Bcvw0C7x9g0B7k580C25us0B12t80C7x9g0B",
     "776k0C25us0B1frw0C7x9g0B6h980C2itg0B1sqk0C7x9g0B64ak0C25us0B2vmk0C7kas0B5rbw0C25us0B38l80C",
     "7kas0B51ek0C2itg0B3ljw0C7x9g0B4bh80C25us0B4bh80C7x9g0B3ljw0C2itg0B4ofw0C7x9g0B38l80C25us0B",
     "5rbw0C7kas0B2vmk0C25us0B64ak0C7kas0B25p80C2itg0B6h980C7x9g0B1frw0C25us0B776k0C7x9g0Bpuk0C",
     "2itg0B7k580C7x9g0Bcvw0C2itg0B7x3w0Ca31g0B8zzw0C9d440B9cyk0C8n6s0Ba2vw0C8a840Bafuk0C7x9g0B",
     "ast80C7x9g0Bb5rw0C7kas0Bb5rw0C7kas0Bb5rw0C7kas0Bb5rw0C7x9g0Bast80C7x9g0Bast80C7x9g0Bb5rw0C",
     "7kas0Bb5rw0C7kas0Bast80C8a840Ba2vw0C8n6s0B9px80C905g0B8zzw0C9q2s0B8n180C25us0Bcvw0C7kas0B",
     "8a2k0C25us0Bpuk0C7kas0B7k580C2itg0B12t80C7x9g0B6u7w0C25us0B1sqk0C7x9g0B64ak0C2itg0B25p80C",
     "7x9g0B5rbw0C2itg0B2vmk0C7kas0B5ed80C25us0B3ljw0C7kas0B4ofw0C2itg0B3yik0C7x9g0B3yik0C25us0B",
     "4ofw0C7x9g0B3ljw0C25us0B51ek0C7x9g0B2vmk0C2itg0B5ed80C7x9g0B2inw0C25us0B6h980C7kas0B1sqk0C",
     "2itg0B6u7w0C7kas0B1frw0C2itg0B776k0C7x9g0Bpuk0C25us0B7x3w0C"],
    .seasonal ⟨"EET", 7200⟩ ⟨"EEST", 10800⟩ ⟨3, 4, 4, 180000⟩ ⟨10, 4, 4, 180000⟩⟩,
  ⟨"Asia/Hebron", [⟨"LMT", 8423⟩, ⟨"EEST", 10800⟩, ⟨"EET", 7200⟩, ⟨"IDT", 10800⟩, ⟨"IST", 7200⟩],
    ["u0cyl5Ckp9t5zB69xc0C2f1c0B10q800C7rmo0Bb0ao0C7thc0Bb0ao0C8jeo0Ba8io0C8jeo0Ba8io0C5hoig0B",
     "7el80Cawo40B7v980Cawqw0B7tk40Cb07w0B7tk40Cayd80B7tk40Cayd80B7tk40Cayd80B7tk40Cb07w0B7tk40C",
     "ayd80B7tk40Cayd80B7ves0Cawik0B1sns0E3p6is0D51ek0E9q2s0D6u7w0E2kjk40D25s00E1weyo0D5reo0E",
     "bvs00D776k0Edbpg0D5rbw0Ebbhg0D7rjw0Easys0D7k580Ec8tg0D6h980Eag040D7x3w0Easys0D8a2k0Easys0D",
     "8a2k0Eap9g0D80t80Eap9g0D7nuk0Eb2840D80t80E66as0C4vxc0B8n400Ca2yo0B8n400Ca2yo0B8n400Casw00B",
     "9cyk0C9q2s0B9cyk0C9d440B9cyk0C9d440B9cyk0C9d440B9cyk0C9d440B8n400Ca2yo0B8ulg0C97ek0B8y580C",
     "9ts40B8hms0Ca4qk0B82nw0Canes0B8a5c0Cafxc0B73h80Cbzk5oB69uicC1hs40B1lbw0C9d440B902o0C9q000B",
     "9cyk0C9d440Bast80C7z440Bar1c0C7z440Bb5rw0C7kas0Bb5rw0C7kas0Bb5rw0C7vc00Baunw0C7x9g0Basw00C",
     "7x6o0Bb4000C7nxc0Bb42s0C9d440B9cyk0C905g0B9px80C8n6s0Ba2vw0C7x9g0Bast80C7x9g0Bb5rw0C7kas0B",
     "b5rw0C7kas0Bb5rw0C7x9g0Bast80C7x9g0Bast80C7x9g0Bb5rw0C7kas0Bb5rw0C7kas0Bb5rw0C7kas0Bb5rw0C",
     "7x9g0Bafuk0C8a840Ba2vw0C8n6s0B9cyk0C9d440B8zzw0C9q2s0B8a2k0C2itg0Bcvw0C7x9g0B7k580C25us0B",
     "12t80C7x9g0B776k0C25us0B1frw0C7x9g0B6h980C2itg0B1sqk0C7x9g0B64ak0C25us0B2vmk0C7kas0B5rbw0C",
     "25us0B38l80C7kas0B51ek0C2itg0B3ljw0C7x9g0B4bh80C25us0B4bh80C7x9g0B3ljw0C2itg0B4ofw0C7x9g0B",
     "38l80C25us0B5rbw0C7kas0B2vmk0C25us0B64ak0C7kas0B25p80C2itg0B6h980C7x9g0B1frw0C25us0B776k0C",
     "7x9g0Bpuk0C2itg0B7k580C7x9g0Bcvw0C2itg0B7x3w0Ca31g0B8zzw0C9d440B9cyk0C8n6s0Ba2vw0C8a840B",
     "afuk0C7x9g0Bast80C7x9g0Bb5rw0C7kas0Bb5rw0C7kas0Bb5rw0C7kas0Bb5rw0C7x9g0Bast80C7x9g0Bast80C",
     "7x9g0Bb5rw0C7kas0Bb5rw0C7kas0Bast80C8a840Ba2vw0C8n6s0B9px80C905g0B8zzw0C9q2s0B8n180C25us0B",
     "cvw0C7kas0B8a2k0C25us0Bpuk0C7kas0B7k580C2itg0B12t80C7x9g0B6u7w0C25us0B1sqk0C7x9g0B64ak0C",
     "2itg0B25p80C7x9g0B5rbw0C2itg0B2vmk0C7kas0B5ed80C25us0B3ljw0C7kas0B4ofw0C2itg0B3yik0C7x9g0B",
     "3yik0C25us0B4ofw0C7x9g0B3ljw0C25us0B51ek0C7x9g0B2vmk0C2itg0B5ed80C7x9g0B2inw0C25us0B6h980C",
     "7kas0B1sqk0C2itg0B6u7w0C7kas0B1frw0C2itg0B776k0C7x9g0Bpuk0C25us0B7x3w0C"],
    .seasonal ⟨"EET", 7200⟩ ⟨"EEST", 10800⟩ ⟨3, 4, 4, 180000⟩ ⟨10, 4, 4, 180000⟩⟩,
  ⟨"Asia/Ho_Chi_Minh", [⟨"LMT", 25590⟩, ⟨"PLMT", 25590⟩, ⟨"+07", 25200⟩, ⟨"+08", 28800⟩,
      ⟨"+09", 32400⟩],
    ["x0bmoaB2isio0Cgj25iuD15ct80E8so00Ctmtk0D4azmo0C2cm7w0D8285c0C"],
    .steady ⟨"+07", 25200⟩⟩,
  ⟨"Asia/Hong_Kong", [⟨"LMT", 27402⟩, ⟨"HKT", 28800⟩, ⟨"HKST", 32400⟩, ⟨"HKWT", 30600⟩,
      ⟨"JST", 32400⟩],
    ["w4zuz4Bj44dk0C5k000D4d4y0E2195i0B7x3w0Cbj320B6uao0Cbvs00B7x6o0C9d1c0B7x6o0Casw00B7x6o0C",
     "asw00B7x6o0Casw00B8a5c0Casw00B7x6o0Cast80B77c40Cbiqk0B77c40Cbvp80B6udg0Cbvp80B77c40Cbiqk0B",
     "77c40Cbiqk0B77c40Cbiqk0B77c40Cbvp80B6udg0Cbvp80B6udg0Cbvp80B77c40Cbiqk0B77c40Cbiqk0B8n6s0C",
     "9cyk0B9d440C9cyk0B9d440C9px80B9d440C9cyk0B9d440C9cyk0B9d440C9cyk0B9d440C9cyk0B9d440C9px80B",
     "9d440C9cyk0B3lpg0Cf4d80B9d440C9cyk0B9d440C9cyk0B1c9440C8a2k0B"],
    .steady ⟨"HKT", 28800⟩⟩,
  ⟨"Asia/Hovd", [⟨"LMT", 21996⟩, ⟨"+06", 21600⟩, ⟨"+08", 28800⟩, ⟨"+07", 25200⟩],
    ["wj56s4B11sncb0D2qk2k0C9et80D9eys0C9cyk0D9d440C9cyk0D9d440C9cyk0D9d440C9cyk0D9d440C9cyk0D",
     "9d440C9cyk0D9d440C9px80D9d440C9cyk0D9d440C9cyk0D9d440C9cyk0D9d440C9cyk0D9d440C9cyk0D9q2s0C",
     "9cyk0D9d440C9cyk0D9d440C9cyk0D1ckdo0C7x3w0D9d440C9cyk0D9d440C9cyk0D9d440C9cyk0D9d440C9cyk0D",
     "9d440C9px80D4fio40C9ct00D9d9o0C9ct00D"],
    .steady ⟨"+07", 25200⟩⟩,
  ⟨"Asia/Irkutsk", [⟨"LMT", 25025⟩, ⟨"IMT", 25025⟩, ⟨"+07", 25200⟩, ⟨"+09", 32400⟩, ⟨"+08", 28800⟩],
    ["j6j9rzBkwq5c0C5fh175Eqi27w0D9et80E9d440D9et80E9d440D9et80E9eys0D9d6w0E9d1c0D9d1c0E9d1c0D",
     "9d1c0E9d1c0D9d1c0E9d1c0D9d1c0E9d1c0D9d1c0E9d1c0D9q000E9d1c0E9d440C5reo0E3ljw0D9d1c0E9d1c0D",
     "9d1c0E9d1c0D9d1c0E9d1c0D9d1c0E9q000Dasw00E7x6o0Dasw00E7x6o0Dasw00E7x6o0Db5uo0E7k800Db5uo0E",
     "7k800Db5uo0E7x6o0Dasw00E7x6o0Dasw00E7x6o0Db5uo0E7k800Db5uo0E7k800Db5uo0E7k800Db5uo0E7x6o0D",
     "asw00E7x6o0Dasw00E7x6o0Db5uo0E7k800D1vbzw0E"],
    .steady ⟨"+08", 28800⟩⟩,
  ⟨"Asia/Jakarta", [⟨"LMT", 25632⟩, ⟨"BMT", 25632⟩, ⟨"+0720", 26400⟩, ⟨"+0730", 27000⟩,
      ⟨"+09", 32400⟩, ⟨"+08", 28800⟩, ⟨"WIB", 25200⟩],
    ["cpnxb4BtfikqoC4lzxc0D4wdzjcE1tu960D1cx860F11jta0D74uc20G"],
    .steady ⟨"WIB", 25200⟩⟩,
  ⟨"Asia/Jayapura", [⟨"LMT", 33768⟩, ⟨"+09", 32400⟩, ⟨"+0930", 34200⟩, ⟨"WIT", 32400⟩],
    ["1ar69p4B66bqe0Ca37vy0D"],
    .steady ⟨"WIT", 32400⟩⟩,
  ⟨"Asia/Jerusalem", [⟨"LMT", 8454⟩, ⟨"JMT", 8440⟩, ⟨"IDT", 10800⟩, ⟨"IST", 7200⟩, ⟨"IDDT", 14400⟩],
    ["j6jmkaBjtxuoeDbp5aigC69xc0D2f1c0C10q800D7rmo0Cb0ao0D7thc0Cb0ao0D8jeo0Ca8io0D8jeo0Ca8io0D",
     "t9pc0E571c0C34yo0D9b6o0C9gqo0D8jeo0C7thc0Da6o00Cbitc0D8a5c0C9d1c0D902o0C7x6o0De1k00C4oio0D",
     "e1k00C4oio0Ddolc0C64dc0Dasw00C7k800D8rfeg0C51ek0D9q2s0C6u7w0D2kjk40C25s00D1weyo0C5reo0D",
     "bvs00C776k0Ddbpg0C5rbw0Dbbhg0C7rjw0Dasys0C7k580Dc8tg0C6h980Dag040C7x3w0Dasys0C8a2k0Dasys0C",
     "8a2k0Dap9g0C80t80Dap9g0C7nuk0Db2840C80t80D9zc40C9iik0D9kis0C93p80D9mdg0C8qqk0Dapf00C7x3w0D",
     "biw40C8zx40D9io40C8n180D9kis0C9vh80D8ulg0C9px80D9mdg0C8n180D9tuw0C9tmk0D8wg40C9gnw0D99es0C",
     "8qqk0D9zc40C9tmk0D8wg40C9gnw0D99es0C8qqk0Dacas0C9gnw0D99es0C93p80D9mdg0C"],
    .seasonal ⟨"IST", 7200⟩ ⟨"IDT", 10800⟩ ⟨3, 4, 4, 93600⟩ ⟨10, 5, 0, 7200⟩⟩,
  ⟨"Asia/Kabul", [⟨"LMT", 16608⟩, ⟨"+04", 14400⟩, ⟨"+0430", 16200⟩],
    ["oeg9lsBspc1pcC"],
    .steady ⟨"+0430", 16200⟩⟩,
  ⟨"Asia/Kamchatka", [⟨"LMT", 38076⟩, ⟨"+11", 39600⟩, ⟨"+13", 46800⟩, ⟨"+12", 43200⟩],
    ["15jq11gB3z045oDqi27w0C9et80D9d440C9et80D9d440C9et80D9eys0C9d6w0D9d1c0C9d1c0D9d1c0C9d1c0D",
     "9d1c0C9d1c0D9d1c0C9d1c0D9d1c0C9d1c0D9d1c0C9q000D9d1c0D9d440B5reo0D3ljw0C9d1c0D9d1c0C9d1c0D",
     "9d1c0C9d1c0D9d1c0C9d1c0D9q000Casw00D7x6o0Casw00D7x6o0Casw00D7x6o0Cb5uo0D7k800Cb5uo0D7k800C",
     "b5uo0D7x6o0Casw00D7x6o0Casw00D7x6o0Cb5uo0D7k800Cb5uo0D7k800Cb5uo0D7k800Cb5uo0D7x6o0Casw00D",
     "7x6o0Casw00D7x6o0Db5xg0B7k800D"],
    .steady ⟨"+12", 43200⟩⟩,
  ⟨"Asia/Karachi", [⟨"LMT", 16092⟩, ⟨"+0530", 19800⟩, ⟨"+0630", 23400⟩, ⟨"+05", 18000⟩,
      ⟨"PKST", 21600⟩, ⟨"PKT", 18000⟩],
    ["x9sko4Bim3zt0C1mn180B33xpg0Da63o20Fg72qo0E9cyk0F2y85g0E7v980F8hms0Eaaak0F"],
    .steady ⟨"PKT", 18000⟩⟩,
  ⟨"Asia/Kathmandu", [⟨"LMT", 20476⟩, ⟨"+0530", 19800⟩, ⟨"+0545", 20700⟩],
    ["14212mcByg2lusC"],
    .steady ⟨"+0545", 20700⟩⟩,
  ⟨"Asia/Khandyga", [⟨"LMT", 32533⟩, ⟨"+08", 28800⟩, ⟨"+10", 36000⟩, ⟨"+09", 32400⟩,
      ⟨"+11", 39600⟩],
    ["1415bzfB5hl1jpDqi27w0C9et80D9d440C9et80D9d440C9et80D9eys0C9d6w0D9d1c0C9d1c0D9d1c0C9d1c0D",
     "9d1c0C9d1c0D9d1c0C9d1c0D9d1c0C9d1c0D9d1c0C9q000D9d1c0D9d440B5reo0D3ljw0C9d1c0D9d1c0C9d1c0D",
     "9d1c0C9d1c0D9d1c0C9d1c0D9q000Casw00D7x6o0Casw00D7x6o0Casw00D7x6o0Cb5uo0D7k800Cb5uo0D7k800C",
     "b5uo0D7x6o0Casw00D7x6o0Casw00D3fx40C4h6s0Eb5uo0C7k800Eb5uo0C7k800Eb5uo0C7k800Eb5uo0C7x6o0E",
     "asw00C7x6o0Easw00C7x6o0Eb5uo0C7k800E8ql00C1mlho0D"],
    .steady ⟨"+09", 32400⟩⟩,
  ⟨"Asia/Kolkata", [⟨"LMT", 21208⟩, ⟨"HMT", 21200⟩, ⟨"MMT", 19270⟩, ⟨"IST", 19800⟩,
      ⟨"+0630", 23400⟩],
    ["5v7sq0B83glc8Cisc6tmDinnm9aEbmfw0D5lxg0E1mn180D"],
    .steady ⟨"IST", 19800⟩⟩,
  ⟨"Asia/Krasnoyarsk", [⟨"LMT", 22286⟩, ⟨"+06", 21600⟩, ⟨"+08", 28800⟩, ⟨"+07", 25200⟩],
    ["142aak2B5gg8j2Dqi27w0C9et80D9d440C9et80D9d440C9et80D9eys0C9d6w0D9d1c0C9d1c0D9d1c0C9d1c0D",
     "9d1c0C9d1c0D9d1c0C9d1c0D9d1c0C9d1c0D9d1c0C9q000D9d1c0D9d440B5reo0D3ljw0C9d1c0D9d1c0C9d1c0D",
     "9d1c0C9d1c0D9d1c0C9d1c0D9q000Casw00D7x6o0Casw00D7x6o0Casw00D7x6o0Cb5uo0D7k800Cb5uo0D7k800C",
     "b5uo0D7x6o0Casw00D7x6o0Casw00D7x6o0Cb5uo0D7k800Cb5uo0D7k800Cb5uo0D7k800Cb5uo0D7x6o0Casw00D",
     "7x6o0Casw00D7x6o0Cb5uo0D7k800C1vbzw0D"],
    .steady ⟨"+07", 25200⟩⟩,
  ⟨"Asia/Kuching", [⟨"LMT", 26480⟩, ⟨"+0730", 27000⟩, ⟨"+0820", 30000⟩, ⟨"+08", 28800⟩,
      ⟨"+09", 32400⟩],
    ["179tgnkB3khwxkD1epvy0C4ohqoDe5a9cC4ohqoDe3flcC4ohqoDe3flcC4ohqoDe3flcC4ohqoDe5a9cC4ohqoD",
     "e3flcC4ohqoD3ajlcE1v2qk0D"],
    .steady ⟨"+08", 28800⟩⟩,
  ⟨"Asia/Macau", [⟨"LMT", 27250⟩, ⟨"CST", 28800⟩, ⟨"+10", 36000⟩, ⟨"+09", 32400⟩, ⟨"CDT", 32400⟩],
    ["w4zte6BjdvyoyD6onw0Cac580D8fs40C7v980D11luw0Bawlc0E7vc00Bac800Ebko00B7x6o0E9d1c0B7vc00E",
     "asw00B7x6o0Easw00B7x6o0Eauqo0B88ao0Easw00B7x6o0Easw00B779c0Ebitc0B779c0Ebvs00B6uao0Ebw1q0B",
     "77c40Ebiqk0B77c40Ebiqk0B77c40Ebiqk0B77c40Ebvp80B6udg0Ebvp80B6udg0Ebvp80B77c40Ebiqk0B77c40E",
     "biqk0B8n6s0E9cvs0B9d6w0E9cvs0B9d6w0E9px80B9d440E9cyk0B9d440E9cyk0B9d440E9cyk0B9d440E9cyk0B",
     "9d440E9px80B9d440E9cyk0B3lpg0Ef4d80B9d440E9cyk0B9d440E9cyk0B1c9440E8a2k0B"],
    .steady ⟨"CST", 28800⟩⟩,
  ⟨"Asia/Magadan", [⟨"LMT", 36192⟩, ⟨"+10", 36000⟩, ⟨"+12", 43200⟩, ⟨"+11", 39600⟩],
    ["16bg7tsB37a05cDqi27w0C9et80D9d440C9et80D9d440C9et80D9eys0C9d6w0D9d1c0C9d1c0D9d1c0C9d1c0D",
     "9d1c0C9d1c0D9d1c0C9d1c0D9d1c0C9d1c0D9d1c0C9q000D9d1c0D9d440B5reo0D3ljw0C9d1c0D9d1c0C9d1c0D",
     "9d1c0C9d1c0D9d1c0C9d1c0D9q000Casw00D7x6o0Casw00D7x6o0Casw00D7x6o0Cb5uo0D7k800Cb5uo0D7k800C",
     "b5uo0D7x6o0Casw00D7x6o0Casw00D7x6o0Cb5uo0D7k800Cb5uo0D7k800Cb5uo0D7k800Cb5uo0D7x6o0Casw00D",
     "7x6o0Casw00D7x6o0Cb5uo0D7k800C1vbzw0Bs39k0D"],
    .steady ⟨"+11", 39600⟩⟩,
  ⟨"Asia/Makassar", [⟨"LMT", 28656⟩, ⟨"MMT", 28656⟩, ⟨"+08", 28800⟩, ⟨"+09", 32400⟩,
      ⟨"WITA", 28800⟩],
    ["1420wb4B6p5hc0C4u87w0D1w02k0E"],
    .steady ⟨"WITA", 28800⟩⟩,
  ⟨"Asia/Manila", [⟨"LMT", (-57368)⟩, ⟨"LMT", 29032⟩, ⟨"PDT", 32400⟩, ⟨"PST", 28800⟩,
      ⟨"JST", 32400⟩],
    ["wyyooBsjc9igDje0pc0C3wnw0D2kc5g0C2zbw0E1leo00Cdzpc0D4d3ms0C2rx80Dbwlpg0C95jw0D6lv1g0C3jp80D"],
    .steady ⟨"PST", 28800⟩⟩,
  ⟨"Asia/Nicosia", [⟨"LMT", 8008⟩, ⟨"EEST", 10800⟩, ⟨"EET", 7200⟩],
    ["15165koCrvhxygB9cyk0Cb42s0B7nuk0C8yas0B8zzw0C9q2s0B9et80C9b9g0B9cyk0C9q2s0B8zzw0C9d440B",
     "9cyk0C9d440B9cyk0C9d440B9cyk0C9d440B9px80C9d440B9cyk0C9d440B9cyk0C9d440B9cyk0C9d440B9cyk0C",
     "9d440B9cyk0C9d440B9px80C9d440B9cyk0C9d440B9cyk0C9d440B9cyk0C9d440B9cyk0C9d440B9cyk0C9q2s0B",
     "9cyk0C9d440B9cyk0C9d440Bat4c0C"],
    .seasonal ⟨"EET", 7200⟩ ⟨"EEST", 10800⟩ ⟨3, 5, 0, 10800⟩ ⟨10, 5, 0, 14400⟩⟩,
  ⟨"Asia/Novokuznetsk", [⟨"LMT", 20928⟩, ⟨"+06", 21600⟩, ⟨"+08", 28800⟩, ⟨"+07", 25200⟩],
    ["16beoxsB37bu5cDqi27w0C9et80D9d440C9et80D9d440C9et80D9eys0C9d6w0D9d1c0C9d1c0D9d1c0C9d1c0D",
     "9d1c0C9d1c0D9d1c0C9d1c0D9d1c0C9d1c0D9d1c0C9q000D9d1c0D9d440B5reo0D3ljw0C9d1c0D9d1c0C9d1c0D",
     "9d1c0C9d1c0D9d1c0C9d1c0D9q000Casw00D7x6o0Casw00D7x6o0Casw00D7x6o0Cb5uo0D7k800Cb5uo0D7k800C",
     "b5uo0D7x6o0Casw00D7x6o0Casw00D7x6o0Cb5uo0D7k800Cb5uo0D7k800Cb5uo0D7k800Cb5uo0D7x6o0Casw00D",
     "7x6o0Casw00D7x6o0Db5xg0B7k800D"],
    .steady ⟨"+07", 25200⟩⟩,
  ⟨"Asia/Novosibirsk", [⟨"LMT", 19900⟩, ⟨"+06", 21600⟩, ⟨"+08", 28800⟩, ⟨"+07", 25200⟩],
    ["14147qcB5hmbcsDqi27w0C9et80D9d440C9et80D9d440C9et80D9eys0C9d6w0D9d1c0C9d1c0D9d1c0C9d1c0D",
     "9d1c0C9d1c0D9d1c0C9d1c0D9d1c0C9d1c0D9d1c0C9q000D9d1c0D9d440B5reo0D3ljw0C9d1c0D9d1c0C2vh00D",
     "6hn40B9d1c0D9d1c0B9d1c0D9d1c0B9q000Dasw00B7x6o0Dasw00B7x6o0Dasw00B7x6o0Db5uo0B7k800Db5uo0B",
     "7k800Db5uo0B7x6o0Dasw00B7x6o0Dasw00B7x6o0Db5uo0B7k800Db5uo0B7k800Db5uo0B7k800Db5uo0B7x6o0D",
     "asw00B7x6o0Dasw00B7x6o0Db5uo0B7k800D1vbzw0Bwrpg0D"],
    .steady ⟨"+07", 25200⟩⟩,
  ⟨"Asia/Omsk", [⟨"LMT", 17610⟩, ⟨"+05", 18000⟩, ⟨"+07", 25200⟩, ⟨"+06", 21600⟩],
    ["13zk8tyB5j6d16Dqi27w0C9et80D9d440C9et80D9d440C9et80D9eys0C9d6w0D9d1c0C9d1c0D9d1c0C9d1c0D",
     "9d1c0C9d1c0D9d1c0C9d1c0D9d1c0C9d1c0D9d1c0C9q000D9d1c0D9d440B5reo0D3ljw0C9d1c0D9d1c0C9d1c0D",
     "9d1c0C9d1c0D9d1c0C9d1c0D9q000Casw00D7x6o0Casw00D7x6o0Casw00D7x6o0Cb5uo0D7k800Cb5uo0D7k800C",
     "b5uo0D7x6o0Casw00D7x6o0Casw00D7x6o0Cb5uo0D7k800Cb5uo0D7k800Cb5uo0D7k800Cb5uo0D7x6o0Casw00D",
     "7x6o0Casw00D7x6o0Cb5uo0D7k800C1vbzw0D"],
    .steady ⟨"+06", 21600⟩⟩,
  ⟨"Asia/Oral", [⟨"LMT", 12324⟩, ⟨"+03", 10800⟩, ⟨"+05", 18000⟩, ⟨"+06", 21600⟩, ⟨"+04", 14400⟩],
    ["16bgq8sB37a16cCqi2540D9et80D9d1c0D9ew00C9d440D9et80C9eys0D9d6w0C9d1c0D9d1c0C9d1c0D9d1c0C",
     "9d1c0D9d1c0C9d1c0D9d1c0C9d1c0C9d440E9d1c0C9q000E9d1c0C9d1c0E5reo0C3ljw0C9d440E9d1c0C9d1c0E",
     "9d1c0C9d1c0E9d1c0C9d1c0E9q000Casw00E7x6o0Casw00E7x6o0Casw00E7x6o0Cb5uo0E7k800Cb5uo0E7k800C",
     "b5uo0E7x6o0Casw00E7x6o0Casw00E7x6o0Cb5uo0C"],
    .steady ⟨"+05", 18000⟩⟩,
  ⟨"Asia/Pontianak", [⟨"LMT", 26240⟩, ⟨"PMT", 26240⟩, ⟨"+0730", 27000⟩, ⟨"+09", 32400⟩,
      ⟨"+08", 28800⟩, ⟨"WITA", 28800⟩, ⟨"WIB", 25200⟩],
    ["xyscu8Bcse2o0C4tnu2wD1wkei0C1cx860E11jta0C74uc20Fcixam0G"],
    .steady ⟨"WIB", 25200⟩⟩,
  ⟨"Asia/Pyongyang", [⟨"LMT", 30180⟩, ⟨"KST", 30600⟩, ⟨"JST", 32400⟩, ⟨"KST", 32400⟩],
    ["xx8pssB1yh10cChk5da0D10ipmo0B1f4qo0D"],
    .steady ⟨"KST", 32400⟩⟩,
  ⟨"Asia/Qatar", [⟨"LMT", 12368⟩, ⟨"+04", 14400⟩, ⟨"+03", 10800⟩],
    ["14218vkBrctnrkC"],
    .steady ⟨"+03", 10800⟩⟩,
  ⟨"Asia/Qostanay", [⟨"LMT", 15268⟩, ⟨"+04", 14400⟩, ⟨"+05", 18000⟩, ⟨"+06", 21600⟩],
    ["16bgnz0B37a0o4Cqi27w0D9et80D9d1c0D9ew00C9d440D9et80C9eys0D9d6w0C9d1c0D9d1c0C9d1c0D9d1c0C",
     "9d1c0D9d1c0C9d1c0D9d1c0C9d1c0D9d1c0C9d1c0D9q000C9d1c0C9d440B5reo0C3ljw0D9d1c0C9d1c0D9d1c0C",
     "9d1c0D9d1c0C9d1c0D9d1c0C9q000Dasw00C7x6o0Dasw00C7x6o0Dasw00C7x6o0Db5uo0C7k800Db5uo0C7k800D",
     "b5uo0C7x6o0Dasw00C7x6o0Dasw00C7x6o0Db5uo0Da37p00C"],
    .steady ⟨"+05", 18000⟩⟩,
  ⟨"Asia/Qyzylorda", [⟨"LMT", 15712⟩, ⟨"+04", 14400⟩, ⟨"+05", 18000⟩, ⟨"+06", 21600⟩],
    ["16bgnmoB37a10gCqi27w0D9et80D9d1c0D9ew00C9d440D9et80C9eys0D9d6w0C9d1c0D9d1c0C9d1c0D9d1c0C",
     "9d1c0D9d1c0C9d1c0D9d1c0C9d1c0D9d1c0C9d1c0D9q000C9d1c0C9d440C5rbw0D3ljw0D9d440C9d1c0D9d1c0C",
     "9d1c0D9d1c0C9d1c0D9d1c0C9q000Dasw00C7x6o0Dasw00C7x6o0Dasw00C7x6o0Db5uo0C7k800Db5uo0C7k800D",
     "b5uo0C7x6o0Dasw00C7x6o0Dasw00C7x6o0Db5uo0D7dmqc0C"],
    .steady ⟨"+05", 18000⟩⟩,
  ⟨"Asia/Riyadh", [⟨"LMT", 11212⟩, ⟨"+03", 10800⟩],
    ["1i91kfoB"],
    .steady ⟨"+03", 10800⟩⟩,
  ⟨"Asia/Sakhalin", [⟨"LMT", 34248⟩, ⟨"+09", 32400⟩, ⟨"+12", 43200⟩, ⟨"+11", 39600⟩,
      ⟨"+10", 36000⟩],
    ["wk9nzsBkvnarcDikvh40C9et80D9d440C9et80D9d440C9et80D9eys0C9d6w0D9d1c0C9d1c0D9d1c0C9d1c0D",
     "9d1c0C9d1c0D9d1c0C9d1c0D9d1c0C9d1c0D9d1c0C9q000D9d1c0D9d440E5reo0D3ljw0C9d1c0D9d1c0C9d1c0D",
     "9d1c0C9d1c0D9d1c0C9d1c0D9q000Casw00D7x6o0Dasys0E7x6o0Dasw00E7x6o0Db5uo0E7k800Db5uo0E7k800D",
     "b5uo0E7x6o0Dasw00E7x6o0Dasw00E7x6o0Db5uo0E7k800Db5uo0E7k800Db5uo0E7k800Db5uo0E7x6o0Dasw00E",
     "7x6o0Dasw00E7x6o0Db5uo0E7k800D1vbzw0Eqnc40D"],
    .steady ⟨"+11", 39600⟩⟩,
  ⟨"Asia/Samarkand", [⟨"LMT", 16073⟩, ⟨"+04", 14400⟩, ⟨"+05", 18000⟩, ⟨"+06", 21600⟩],
    ["16bgncnB37a1ahCqi27w0D9et80D9d1c0D9ew00C9d440D9et80C9eys0D9d6w0C9d1c0D9d1c0C9d1c0D9d1c0C",
     "9d1c0D9d1c0C9d1c0D9d1c0C9d1c0D9d1c0C9d1c0D9q000C9d1c0D9d1c0C"],
    .steady ⟨"+05", 18000⟩⟩,
  ⟨"Asia/Seoul", [⟨"LMT", 30472⟩, ⟨"KST", 30600⟩, ⟨"JST", 32400⟩, ⟨"KDT", 36000⟩, ⟨"KST", 32400⟩,
      ⟨"KDT", 34200⟩],
    ["xx8pkoB1yh18gChkx5a0E1faao0D5cik0Eae5g0D8a2k0Eae5g0D8bx80Ec8tg0D6h980E1bj6s0Bl3aq0F6j3w0B",
     "d2g40F6u7w0Bb5xg0F776k0Bbiw40F776k0Bbiw40F776k0Bbiw40F776k0Bgrs40Edfqxi0D7x6o0Easw00D7x6o0E"],
    .steady ⟨"KST", 32400⟩⟩,
  ⟨"Asia/Shanghai", [⟨"LMT", 29143⟩, ⟨"CDT", 32400⟩, ⟨"CST", 28800⟩],
    ["u52vxlC9jeyxjB8sl80Casbpg0B6w2k0C7ves0Bbxjw0C4mqs0B1vduk0Cd4as0B75bw0Ca31g0Baaak0C9d440B",
     "7v980Cawo40B1dx80Cj9xpo0B6u7w0Casys0B7x3w0Cb5xg0B7k580Cb5xg0B7x3w0Casys0B7x3w0Casys0B7x3w0C"],
    .steady ⟨"CST", 28800⟩⟩,
  ⟨"Asia/Singapore", [⟨"LMT", 24925⟩, ⟨"SMT", 24925⟩, ⟨"+07", 25200⟩, ⟨"+0720", 26400⟩,
      ⟨"+0730", 27000⟩, ⟨"+09", 32400⟩, ⟨"+08", 28800⟩],
    ["u52z6rB2ax6o0Ceeb94dD1kbr2oD2yhc00E8n3jcF1v2p60Eiy3ms0G"],
    .steady ⟨"+08", 28800⟩⟩,
  ⟨"Asia/Srednekolymsk", [⟨"LMT", 36892⟩, ⟨"+10", 36000⟩, ⟨"+12", 43200⟩, ⟨"+11", 39600⟩],
    ["16bg7acB37a0osDqi27w0C9et80D9d440C9et80D9d440C9et80D9eys0C9d6w0D9d1c0C9d1c0D9d1c0C9d1c0D",
     "9d1c0C9d1c0D9d1c0C9d1c0D9d1c0C9d1c0D9d1c0C9q000D9d1c0D9d440B5reo0D3ljw0C9d1c0D9d1c0C9d1c0D",
     "9d1c0C9d1c0D9d1c0C9d1c0D9q000Casw00D7x6o0Casw00D7x6o0Casw00D7x6o0Cb5uo0D7k800Cb5uo0D7k800C",
     "b5uo0D7x6o0Casw00D7x6o0Casw00D7x6o0Cb5uo0D7k800Cb5uo0D7k800Cb5uo0D7k800Cb5uo0D7x6o0Casw00D",
     "7x6o0Casw00D7x6o0Cb5uo0D7k800C1vbzw0D"],
    .steady ⟨"+11", 39600⟩⟩,
  ⟨"Asia/Taipei", [⟨"LMT", 29160⟩, ⟨"CST", 28800⟩, ⟨"JST", 32400⟩, ⟨"CDT", 32400⟩],
    ["rj5el4Blsd1m0C45slc0Bc51c0D75bw0Ba31g0Daaak0B9d440D7v980Bawo40D7v980Bawo40D7v980Bawo40D",
     "7v980B7tk40Dclmk0B7rpg0Db07w0B7rpg0Db07w0B7rpg0D9et80B9eys0D9et80B9d440D9et80B9d440D9et80B",
     "9d440D9et80Bcjxg0D69uk0Bci2s0D69uk0B6its40D9et80B9d440D9et80B1yf9g0D4qak0B"],
    .steady ⟨"CST", 28800⟩⟩,
  ⟨"Asia/Tashkent", [⟨"LMT", 16631⟩, ⟨"+05", 18000⟩, ⟨"+07", 25200⟩, ⟨"+06", 21600⟩],
    ["16bgmx5B379yxzDqi27w0C9et80D9d440C9et80D9d440C9et80D9eys0C9d6w0D9d1c0C9d1c0D9d1c0C9d1c0D",
     "9d1c0C9d1c0D9d1c0C9d1c0D9d1c0C9d1c0D9d1c0C9q000D9d1c0D9d440B"],
    .steady ⟨"+05", 18000⟩⟩,
  ⟨"Asia/Tbilisi", [⟨"LMT", 10751⟩, ⟨"TBMT", 10751⟩, ⟨"+03", 10800⟩, ⟨"+05", 18000⟩,
      ⟨"+04", 14400⟩],
    ["j6jkshBn4x6o0Ch4tjynEckinw0D9et80E9d440D9et80E9d440D9et80E9eys0D9d6w0E9d1c0D9d1c0E9d1c0D",
     "9d1c0E9d1c0D9d1c0E9d1c0D9d1c0E9d1c0D9d1c0E9d1c0D9q000E9d1c0E9d440C9cvs0E9cyk0C9d440E9cyk0C",
     "9d440E9cyk0E9d1c0D9cyk0E9q2s0Dipzw0Dasw00E7x9g0Dast80E7x9g0Db5rw0E7kas0Db5rw0E7kas0Db5rw0E",
     "7x9g0Dast80E7x9g0Dast80E7x9g0D4ofw0E6hn40C7k800E"],
    .steady ⟨"+04", 14400⟩⟩,
  ⟨"Asia/Tehran", [⟨"LMT", 12344⟩, ⟨"TMT", 12344⟩, ⟨"+0430", 16200⟩, ⟨"+0330", 12600⟩,
      ⟨"+05", 18000⟩, ⟨"+04", 14400⟩],
    ["11yvow8Ba5dpc0Dlsvh0wCayg00F7z2q0E6uao0F51hc0Da4uq0C5wvw0D9gtg0C9kd80D5ja5g0C7avw0D9d440C",
     "9gnw0D9b9g0C9gnw0D9b9g0C9gnw0D9b9g0C9gnw0D9b9g0C9gnw0D9d440C9gnw0D9b9g0C9gnw0D9b9g0C9gnw0D",
     "9b9g0C9gnw0D9d440C9gnw0D9b9g0C9gnw0D9b9g0C9gnw0D9b9g0C9gnw0D9d440C9gnw0D1av440C9gnw0D9d440C",
     "9gnw0D9b9g0C9gnw0D9b9g0C9gnw0D9b9g0C9gnw0D9d440C9gnw0D9b9g0C9gnw0D9b9g0C9gnw0D9b9g0C9gnw0D",
     "9d440C9gnw0D9b9g0C9gnw0D9b9g0C9gnw0D9b9g0C9gnw0D9d440C9gnw0D9b9g0C9gnw0D"],
    .steady ⟨"+0330", 12600⟩⟩,
  ⟨"Asia/Thimphu", [⟨"LMT", 21516⟩, ⟨"+0530", 19800⟩, ⟨"+06", 21600⟩],
    ["1igyj5gBkxymnoC"],
    .steady ⟨"+06", 21600⟩⟩,
  ⟨"Asia/Tokyo", [⟨"LMT", 33539⟩, ⟨"JDT", 36000⟩, ⟨"JST", 32400⟩],
    ["ncu834Cvhjeo0B6uao0Cafxc0B8a5c0Cc8qo0B6hc00Cc8qo0B6hc00C"],
    .steady ⟨"JST", 32400⟩⟩,
  ⟨"Asia/Tomsk", [⟨"LMT", 20391⟩, ⟨"+06", 21600⟩, ⟨"+08", 28800⟩, ⟨"+07", 25200⟩],
    ["141ik0pB5h7z2fDqi27w0C9et80D9d440C9et80D9d440C9et80D9eys0C9d6w0D9d1c0C9d1c0D9d1c0C9d1c0D",
     "9d1c0C9d1c0D9d1c0C9d1c0D9d1c0C9d1c0D9d1c0C9q000D9d1c0D9d440B5reo0D3ljw0C9d1c0D9d1c0C9d1c0D",
     "9d1c0C9d1c0D9d1c0C9d1c0D9q000Casw00D7x6o0Casw00D7x6o0Casw00D7x6o0Cb5uo0D7k800Cb5uo0D7k800C",
     "b5uo0D7x6o0C1leo0D97k40B7x6o0Dasw00B7x6o0Db5uo0B7k800Db5uo0B7k800Db5uo0B7k800Db5uo0B7x6o0D",
     "asw00B7x6o0Dasw00B7x6o0Db5uo0B7k800D1vbzw0Btw040D"],
    .steady ⟨"+07", 25200⟩⟩,
  ⟨"Asia/Ulaanbaatar", [⟨"LMT", 25652⟩, ⟨"+07", 25200⟩, ⟨"+09", 32400⟩, ⟨"+08", 28800⟩],
    ["wj53ykB11sncckD2qk2k0C9et80D9eys0C9cyk0D9d440C9cyk0D9d440C9cyk0D9d440C9cyk0D9d440C9cyk0D",
     "9d440C9cyk0D9d440C9px80D9d440C9cyk0D9d440C9cyk0D9d440C9cyk0D9d440C9cyk0D9d440C9cyk0D9q2s0C",
     "9cyk0D9d440C9cyk0D9d440C9cyk0D1ckdo0C7x3w0D9d440C9cyk0D9d440C9cyk0D9d440C9cyk0D9d440C9cyk0D",
     "9d440C9px80D4fio40C9ct00D9d9o0C9ct00D"],
    .steady ⟨"+08", 28800⟩⟩,
  ⟨"Asia/Urumqi", [⟨"LMT", 21020⟩, ⟨"+06", 21600⟩],
    ["188c678B"],
    .steady ⟨"+06", 21600⟩⟩,
  ⟨"Asia/Ust-Nera", [⟨"LMT", 34374⟩, ⟨"+08", 28800⟩, ⟨"+09", 32400⟩, ⟨"+11", 39600⟩, ⟨"+12", 43200⟩,
      ⟨"+10", 36000⟩],
    ["1415akaB5hl2yuCqi27w0E9eno0D9d440E9et80D9d440E9et80D9eys0E9d6w0D9d1c0E9d1c0D9d1c0E9d1c0D",
     "9d1c0E9d1c0D9d1c0E9d1c0D9d1c0E9d1c0D9d1c0E9q000D9d1c0D9d440F5reo0D3ljw0E9d1c0D9d1c0E9d1c0D",
     "9d1c0E9d1c0D9d1c0E9d1c0D9q000Easw00D7x6o0Easw00D7x6o0Easw00D7x6o0Eb5uo0D7k800Eb5uo0D7k800E",
     "b5uo0D7x6o0Easw00D7x6o0Easw00D7x6o0Eb5uo0D7k800Eb5uo0D7k800Eb5uo0D7k800Eb5uo0D7x6o0Easw00D",
     "7x6o0Easw00D7x6o0Eb5uo0D7k800E8ql00D1mlho0F"],
    .steady ⟨"+10", 36000⟩⟩,
  ⟨"Asia/Vladivostok", [⟨"LMT", 31651⟩, ⟨"+09", 32400⟩, ⟨"+11", 39600⟩, ⟨"+10", 36000⟩],
    ["15jzfbxB3yqvf7Dqi27w0C9et80D9d440C9et80D9d440C9et80D9eys0C9d6w0D9d1c0C9d1c0D9d1c0C9d1c0D",
     "9d1c0C9d1c0D9d1c0C9d1c0D9d1c0C9d1c0D9d1c0C9q000D9d1c0D9d440B5reo0D3ljw0C9d1c0D9d1c0C9d1c0D",
     "9d1c0C9d1c0D9d1c0C9d1c0D9q000Casw00D7x6o0Casw00D7x6o0Casw00D7x6o0Cb5uo0D7k800Cb5uo0D7k800C",
     "b5uo0D7x6o0Casw00D7x6o0Casw00D7x6o0Cb5uo0D7k800Cb5uo0D7k800Cb5uo0D7k800Cb5uo0D7x6o0Casw00D",
     "7x6o0Casw00D7x6o0Cb5uo0D7k800C1vbzw0D"],
    .steady ⟨"+10", 36000⟩⟩,
  ⟨"Asia/Yakutsk", [⟨"LMT", 31138⟩, ⟨"+08", 28800⟩, ⟨"+10", 36000⟩, ⟨"+09", 32400⟩],
    ["1415d26B5hl0gyDqi27w0C9et80D9d440C9et80D9d440C9et80D9eys0C9d6w0D9d1c0C9d1c0D9d1c0C9d1c0D",
     "9d1c0C9d1c0D9d1c0C9d1c0D9d1c0C9d1c0D9d1c0C9q000D9d1c0D9d440B5reo0D3ljw0C9d1c0D9d1c0C9d1c0D",
     "9d1c0C9d1c0D9d1c0C9d1c0D9q000Casw00D7x6o0Casw00D7x6o0Casw00D7x6o0Cb5uo0D7k800Cb5uo0D7k800C",
     "b5uo0D7x6o0Casw00D7x6o0Casw00D7x6o0Cb5uo0D7k800Cb5uo0D7k800Cb5uo0D7k800Cb5uo0D7x6o0Casw00D",
     "7x6o0Casw00D7x6o0Cb5uo0D7k800C1vbzw0D"],
    .steady ⟨"+09", 32400⟩⟩,
  ⟨"Asia/Yangon", [⟨"LMT", 23087⟩, ⟨"RMT", 23087⟩, ⟨"+0630", 23400⟩, ⟨"+09", 32400⟩],
    ["j6jb9tBkvhpc0Cbnjp3bD1kh520C"],
    .steady ⟨"+0630", 23400⟩⟩,
  ⟨"Asia/Yekaterinburg", [⟨"LMT", 14553⟩, ⟨"PMT", 13505⟩, ⟨"+04", 14400⟩, ⟨"+06", 21600⟩,
      ⟨"+05", 18000⟩],
    ["128cduvB1kybx4C5pfyv5Eqi27w0D9et80E9d440D9et80E9d440D9et80E9eys0D9d6w0E9d1c0D9d1c0E9d1c0D",
     "9d1c0E9d1c0D9d1c0E9d1c0D9d1c0E9d1c0D9d1c0E9d1c0D9q000E9d1c0E9d440C5reo0E3ljw0D9d1c0E9d1c0D",
     "9d1c0E9d1c0D9d1c0E9d1c0D9d1c0E9q000Dasw00E7x6o0Dasw00E7x6o0Dasw00E7x6o0Db5uo0E7k800Db5uo0E",
     "7k800Db5uo0E7x6o0Dasw00E7x6o0Dasw00E7x6o0Db5uo0E7k800Db5uo0E7k800Db5uo0E7k800Db5uo0E7x6o0D",
     "asw00E7x6o0Dasw00E7x6o0Db5uo0E7k800D1vbzw0E"],
    .steady ⟨"+05", 18000⟩⟩,
  ⟨"Asia/Yerevan", [⟨"LMT", 10680⟩, ⟨"+03", 10800⟩, ⟨"+05", 18000⟩, ⟨"+04", 14400⟩],
    ["16bgrigBh4tjwoDckinw0C9et80D9d440C9et80D9d440C9et80D9eys0C9d6w0D9d1c0C9d1c0D9d1c0C9d1c0D",
     "9d1c0C9d1c0D9d1c0C9d1c0D9d1c0C9d1c0D9d1c0C9q000D9d1c0D9d440B9d1c0D9d1c0B9d1c0D9d1c0B9d1c0D",
     "9d1c0B9d1c0D9d1c0Dsfzw0Casw00D7x6o0Casw00D7x6o0Cb5uo0D7k800Cb5uo0D7k800Cb5uo0D7x6o0Casw00D",
     "7x6o0Casw00D7x6o0Cb5uo0D7k800Cb5uo0D7k800Cb5uo0D7k800Cb5uo0D7x6o0Casw00D7x6o0Casw00D7x6o0C",
     "b5uo0D7k800Cb5uo0D"],
    .steady ⟨"+04", 14400⟩⟩,
  ⟨"Indian/Chagos", [⟨"LMT", 17380⟩, ⟨"+05", 18000⟩, ⟨"+06", 21600⟩],
    ["x9sjocB1ag64usC"],
    .steady ⟨"+06", 21600⟩⟩,
  ⟨"Indian/Maldives", [⟨"LMT", 17640⟩, ⟨"MMT", 17640⟩, ⟨"+05", 18000⟩],
    ["j6jfh4B15r19c0C"],
    .steady ⟨"+05", 18000⟩⟩,
  ⟨"Indian/Mauritius", [⟨"LMT", 13800⟩, ⟨"+05", 18000⟩, ⟨"+04", 14400⟩],
    ["x9smfsC13jnu7cB8bx80Cdd0wc0B7x3w0C"],
    .steady ⟨"+04", 14400⟩⟩]

end Worksheet.Zones
