import Worksheet.Calendar.ZoneEntry

/-!
# Zones: Australia, the Pacific Ocean and Antarctica

One entry for each zone of the time zone database, in the order of their names.
-/

namespace Worksheet.Zones

def pacific : List ZoneEntry := [
  ⟨"Antarctica/Casey", [⟨"-00", 0⟩, ⟨"+08", 28800⟩, ⟨"+11", 39600⟩],
    ["1tmpyf4Blag4o0C73bo0Buz1o0C60l80B2fnh80Cpz9g0Bat4c0C89u80Bacgc0C80no0Basw1oC89wycBag5poC",
     "89wycBag5poC84lacB"],
    .steady ⟨"+08", 28800⟩⟩,
  ⟨"Antarctica/Davis", [⟨"-00", 0⟩, ⟨"+07", 25200⟩, ⟨"+05", 18000⟩],
    ["1ndvif4B42jdw0A27wgs0Bl8uss0C7eqs0Bunmk0C60qs0B"],
    .steady ⟨"+07", 25200⟩⟩,
  ⟨"Antarctica/Macquarie", [⟨"-00", 0⟩, ⟨"AEST", 36000⟩, ⟨"AEDT", 39600⟩],
    ["tj6mf4B8ts4g0C902o0B11wns0Af4kh40Ba6p8g0C9d1c0Basw00C6uao0Bbvs00C6uao0Bbvs00C779c0Bbvs00C",
     "64dc0Bclpc0C6hc00Bc8qo0C6hc00Bc8qo0C6hc00Bc8qo0C6uao0Bc8qo0C6hc00Bc8qo0C6hc00Bc8qo0C6hc00B",
     "c8qo0C6hc00Bc8qo0C6hc00Bc8qo0C7x6o0Bb5uo0C7k800Bb5uo0C6hc00Bc8qo0C6hc00Bc8qo0C6hc00Bbvs00C",
     "7k800Bbitc0C7k800Bbitc0C779c0Bbitc0C779c0Bbitc0C7x6o0B9q000C902o0B9q000C902o0B9q000C902o0B",
     "9q000C902o0B9q000C9d1c0B9q000C902o0B9q000C902o0B9q000C902o0B9q000C902o0B7x6o0Casw00Ba2yo0C",
     "902o0B9q000C902o0B9q000C902o0B9q000C902o0B9q000C9d1c0B9d1c0C902o0Ba2yo0C9d1c0B9d1c0C9d1c0B",
     "9d1c0Cs3400B"],
    .seasonal ⟨"AEST", 36000⟩ ⟨"AEDT", 39600⟩ ⟨10, 1, 0, 7200⟩ ⟨4, 1, 0, 10800⟩⟩,
  ⟨"Antarctica/Mawson", [⟨"-00", 0⟩, ⟨"+06", 21600⟩, ⟨"+05", 18000⟩],
    ["1lv3af4Bt22y80C"],
    .steady ⟨"+05", 18000⟩⟩,
  ⟨"Antarctica/Palmer", [⟨"-00", 0⟩, ⟨"-04", (-14400)⟩, ⟨"-03", (-10800)⟩, ⟨"-02", (-7200)⟩],
    ["1rjkef4C31ho0Bbqas0C71mk0Bbqas0C8ovw0B9d440C9px80B9d440C9cyk0B9d440C28t6k0D51ek0C46b6s0B",
     "8c2s0C7x3w0Basys0C7x3w0Bb5xg0C7k580Bb5xg0C7k580Bb5xg0C9cyk0B9d440C7x3w0Basys0C7x3w0Bb5xg0C",
     "7k580B9q2s0C8zzw0Bb5xg0C7x3w0Basys0C7x3w0Basys0C7x3w0Basys0C7x3w0Bb5xg0C7k580Bb5xg0C8n180B",
     "a31g0C7x3w0Ba31g0C9px80B9q2s0C7x3w0Bb5xg0C7k580Bb5xg0C7k580Bb5xg0C7k580Bb5xg0C7x3w0Basys0C",
     "7x3w0Basys0C7x3w0Bb5xg0C7k580Bb5xg0C8n180Ba31g0C7x3w0Basys0C8zzw0B9q2s0Cast80B5eis0Ccyl80B",
     "6hes0Cc8nw0B6udg0Cbvp80B6udg0Cvonw0B4olg0C5rbw0C"],
    .steady ⟨"-03", (-10800)⟩⟩,
  ⟨"Antarctica/Rothera", [⟨"-00", 0⟩, ⟨"-03", (-10800)⟩],
    ["1xrfnr4B"],
    .steady ⟨"-03", (-10800)⟩⟩,
  ⟨"Antarctica/Troll", [⟨"-00", 0⟩, ⟨"+02", 7200⟩, ⟨"+00", 0⟩],
    ["2ch9qf4C27pg0B"],
    .seasonal ⟨"+00", 0⟩ ⟨"+02", 7200⟩ ⟨3, 5, 0, 3600⟩ ⟨10, 5, 0, 10800⟩⟩,
  ⟨"Antarctica/Vostok", [⟨"-00", 0⟩, ⟨"+07", 25200⟩, ⟨"+05", 18000⟩],
    ["1nv7l34Biushw0Ae23g0Bf79gs0C"],
    .steady ⟨"+05", 18000⟩⟩,
  ⟨"Australia/Adelaide", [⟨"LMT", 33260⟩, ⟨"ACST", 32400⟩, ⟨"ACDT", 37800⟩, ⟨"ACST", 34200⟩],
    ["r1ysr8B27qdzwD97zyu0C49pc0Dcxfk00C4h400D9d1c0C9d1c0D9q000C902o0Deeio00C64dc0Dclpc0C6hc00D",
     "c8qo0C6hc00Dc8qo0C6hc00Dc8qo0C6uao0Dc8qo0C6hc00Dc8qo0C6hc00Dc8qo0C6hc00Dc8qo0C6hc00Dc8qo0C",
     "6hc00Dc8qo0C6uao0Dc8qo0C6hc00Dc8qo0C6hc00Dc8qo0C6hc00Dc8qo0C779c0Db5uo0C7k800Dbitc0C7k800D",
     "bitc0C779c0Dbitc0C779c0Dbitc0C6hc00Dc8qo0C7k800Db5uo0C6uao0Dc8qo0C779c0Dbitc0C7k800Db5uo0C",
     "7x6o0Dasw00C7x6o0Dasw00C7x6o0Dasw00C7x6o0Db5uo0C7k800Db5uo0C7k800Db5uo0C7x6o0Dasw00C7x6o0D",
     "asw00C7x6o0Db5uo0C7k800Db5uo0C7x6o0Dasw00C7k800Db5uo0C8a5c0D"],
    .seasonal ⟨"ACST", 34200⟩ ⟨"ACDT", 37800⟩ ⟨10, 1, 0, 7200⟩ ⟨4, 1, 0, 10800⟩⟩,
  ⟨"Australia/Brisbane", [⟨"LMT", 36728⟩, ⟨"AEDT", 39600⟩, ⟨"AEST", 36000⟩],
    ["r0dbewCbhbss8B49pc0Ccxfk00B4h400C9d1c0B9d1c0C9q000B902o0Ceeio00B64dc0C97zuo0B6hc00Cc8qo0B",
     "6hc00Cc8qo0B6hc00C"],
    .steady ⟨"AEST", 36000⟩⟩,
  ⟨"Australia/Broken_Hill", [⟨"LMT", 33948⟩, ⟨"AEST", 36000⟩, ⟨"ACST", 32400⟩, ⟨"ACDT", 37800⟩,
      ⟨"ACST", 34200⟩],
    ["r1ys84Bt9nr0C1egqs0E97zyu0D49pc0Ecxfk00D4h400E9d1c0D9d1c0E9q000D902o0Eeeio00D64dc0Eclpc0D",
     "6hc00Ec8qo0D6hc00Ec8qo0D6hc00Ec8qo0D6uao0Ec8qo0D6hc00Ec8qo0D6hc00Ec8qo0D6hc00Ec8qo0D6hc00E",
     "c8qo0D6hc00Ec8qo0D8a5c0Easw00D6hc00Ec8qo0D6hc00Ec8qo0D6hc00Ec8qo0D779c0Eb5uo0D7k800Ebitc0D",
     "7k800Ebitc0D779c0Ebitc0D6hc00Ec8qo0D6hc00Ec8qo0D6hc00Ec8qo0D6uao0Ec8qo0D6hc00Ec8qo0D6hc00E",
     "c8qo0D7x6o0Easw00D7x6o0Easw00D7x6o0Easw00D7x6o0Eb5uo0D7k800Eb5uo0D7k800Eb5uo0D7x6o0Easw00D",
     "7x6o0Easw00D7x6o0Eb5uo0D7k800Eb5uo0D7x6o0Easw00D7k800Eb5uo0D8a5c0E"],
    .seasonal ⟨"ACST", 34200⟩ ⟨"ACDT", 37800⟩ ⟨10, 1, 0, 7200⟩ ⟨4, 1, 0, 10800⟩⟩,
  ⟨"Australia/Darwin", [⟨"LMT", 31400⟩, ⟨"ACST", 32400⟩, ⟨"ACDT", 37800⟩, ⟨"ACST", 34200⟩],
    ["r1yu6wB27qck8D97zyu0C49pc0Dcxfk00C4h400D9d1c0C9d1c0D9q000C902o0D"],
    .steady ⟨"ACST", 34200⟩⟩,
  ⟨"Australia/Eucla", [⟨"LMT", 30928⟩, ⟨"+0945", 35100⟩, ⟨"+0845", 31500⟩],
    ["rhjyk0Cb05944B49pc0Ccxfk00B4h400C9d1c0B9d1c0Cgheyo0B6hc00C4ir9c0B6hc00C40r400B5eg00C7p9hc0B",
     "5reo0Cb5uo0B7x6o0Casw00B7x6o0C"],
    .steady ⟨"+0845", 31500⟩⟩,
  ⟨"Australia/Hobart", [⟨"LMT", 35356⟩, ⟨"AEDT", 39600⟩, ⟨"AEST", 36000⟩],
    ["rcvch0Cb03ee4B902o0Cb5uo0B6hc00Cc8qo0B6hc00Cbx2ao0B4h400C9d1c0B9d1c0C9q000B902o0Cc9tk00B",
     "9d1c0Casw00B6uao0Cbvs00B6uao0Cbvs00B779c0Cbvs00B64dc0Cclpc0B6hc00Cc8qo0B6hc00Cc8qo0B6hc00C",
     "c8qo0B6uao0Cc8qo0B6hc00Cc8qo0B6hc00Cc8qo0B6hc00Cc8qo0B6hc00Cc8qo0B6hc00Cc8qo0B7x6o0Cb5uo0B",
     "7k800Cb5uo0B6hc00Cc8qo0B6hc00Cc8qo0B6hc00Cbvs00B7k800Cbitc0B7k800Cbitc0B779c0Cbitc0B779c0C",
     "bitc0B7x6o0C9q000B902o0C9q000B902o0C9q000B902o0C9q000B902o0C9q000B9d1c0C9q000B902o0C9q000B",
     "902o0C9q000B902o0C9q000B902o0C7x6o0Basw00Ca2yo0B902o0C9q000B902o0C9q000B902o0C9q000B902o0C",
     "9q000B9d1c0C9d1c0B902o0Ca2yo0B"],
    .seasonal ⟨"AEST", 36000⟩ ⟨"AEDT", 39600⟩ ⟨10, 1, 0, 7200⟩ ⟨4, 1, 0, 10800⟩⟩,
  ⟨"Australia/Lindeman", [⟨"LMT", 35756⟩, ⟨"AEDT", 39600⟩, ⟨"AEST", 36000⟩],
    ["r0dc5wCbhbs18B49pc0Ccxfk00B4h400C9d1c0B9d1c0C9q000B902o0Ceeio00B64dc0C97zuo0B6hc00Cc8qo0B",
     "6hc00Cc8qo0B6hc00Cc8qo0B6uao0Cc8qo0B6hc00C"],
    .steady ⟨"AEST", 36000⟩⟩,
  ⟨"Australia/Lord_Howe", [⟨"LMT", 38180⟩, ⟨"AEST", 36000⟩, ⟨"+1130", 41400⟩, ⟨"+1030", 37800⟩,
      ⟨"+11", 39600⟩],
    ["r1yoykB18x8f0kDc8uu0C6u7w0Dc8tg0C6h980Dc8tg0C6h980Dc8tg0C6h980Dc8tg0E777y0Db5w20E7k6m0D",
     "biuq0E7k6m0Dbiuq0E777y0Dbiuq0E6ham0Dc8s20E6ham0Dc8s20E6ham0Dc8s20E6u9a0Dc8s20E6ham0Dc8s20E",
     "6ham0Dc8s20E7x5a0Dasxe0E7x5a0Dasxe0E7x5a0Dasxe0E7x5a0Db5w20E7k6m0D7x820Easum0Db5w20E7x5a0D",
     "asxe0E7x5a0Dasxe0E7x5a0Db5w20E7k6m0Db5w20E7x5a0Dasxe0E7k6m0Db5w20E8a3y0D"],
    .seasonal ⟨"+1030", 37800⟩ ⟨"+11", 39600⟩ ⟨10, 1, 0, 7200⟩ ⟨4, 1, 0, 7200⟩⟩,
  ⟨"Australia/Melbourne", [⟨"LMT", 34792⟩, ⟨"AEDT", 39600⟩, ⟨"AEST", 36000⟩],
    ["r1yrkoCbfqcmgB49pc0Ccxfk00B4h400C9d1c0B9d1c0C9q000B902o0Ceeio00B64dc0Cclpc0B6hc00Cc8qo0B",
     "6hc00Cc8qo0B6hc00Cc8qo0B6uao0Cc8qo0B6hc00Cc8qo0B6hc00Cc8qo0B6hc00Cc8qo0B6hc00Cc8qo0B6hc00C",
     "c8qo0B6uao0Cc8qo0B6hc00Cc8qo0B6hc00Cc8qo0B6hc00Cc8qo0B779c0Cb5uo0B7k800Cb5uo0B7x6o0Cbitc0B",
     "779c0Cbitc0B779c0Cbitc0B6hc00Cc8qo0B6hc00Cc8qo0B6uao0Cc8qo0B6hc00Cc8qo0B7k800Cb5uo0B7x6o0C",
     "asw00B7x6o0Casw00B7x6o0Casw00B7x6o0Cb5uo0B7k800C7x6o0Basw00Cb5uo0B7x6o0Casw00B7x6o0Casw00B",
     "7x6o0Cb5uo0B7k800Cb5uo0B7x6o0Casw00B7k800Cb5uo0B8a5c0C"],
    .seasonal ⟨"AEST", 36000⟩ ⟨"AEDT", 39600⟩ ⟨10, 1, 0, 7200⟩ ⟨4, 1, 0, 10800⟩⟩,
  ⟨"Australia/Perth", [⟨"LMT", 27804⟩, ⟨"AWDT", 32400⟩, ⟨"AWST", 28800⟩],
    ["rhk0ysCb058scB49pc0Ccxfk00B4h400C9d1c0B9d1c0Cgheyo0B6hc00C4ir9c0B6hc00C40r400B5eg00C7p9hc0B",
     "5reo0Cb5uo0B7x6o0Casw00B7x6o0C"],
    .steady ⟨"AWST", 28800⟩⟩,
  ⟨"Australia/Sydney", [⟨"LMT", 36292⟩, ⟨"AEDT", 39600⟩, ⟨"AEST", 36000⟩],
    ["r1yqf0Cbfqds4B49pc0Ccxfk00B4h400C9d1c0B9d1c0C9q000B902o0Ceeio00B64dc0Cclpc0B6hc00Cc8qo0B",
     "6hc00Cc8qo0B6hc00Cc8qo0B6uao0Cc8qo0B6hc00Cc8qo0B6hc00Cc8qo0B6hc00Cc8qo0B6hc00Cc8qo0B6hc00C",
     "c8qo0B8a5c0Casw00B6hc00Cc8qo0B6hc00Cc8qo0B6hc00Cc8qo0B779c0Cb5uo0B7k800Cbitc0B7k800Cbitc0B",
     "779c0Cbitc0B6hc00Cc8qo0B6hc00Cc8qo0B6hc00Cc8qo0B6uao0Cc8qo0B6hc00Cc8qo0B6hc00Cc8qo0B7x6o0C",
     "asw00B7x6o0Casw00B7x6o0Casw00B7x6o0Cb5uo0B7k800C7x6o0Basw00Cb5uo0B7x6o0Casw00B7x6o0Casw00B",
     "7x6o0Cb5uo0B7k800Cb5uo0B7x6o0Casw00B7k800Cb5uo0B8a5c0C"],
    .seasonal ⟨"AEST", 36000⟩ ⟨"AEDT", 39600⟩ ⟨10, 1, 0, 7200⟩ ⟨4, 1, 0, 10800⟩⟩,
  ⟨"Pacific/Apia", [⟨"LMT", 45184⟩, ⟨"LMT", (-41216)⟩, ⟨"-1130", (-41400)⟩, ⟨"-10", (-36000)⟩,
      ⟨"-11", (-39600)⟩, ⟨"+13", 46800⟩, ⟨"+14", 50400⟩],
    ["ppjy80B9nfeo0Ckcrmt4Evp3la0D9odo0E902o0D4zbk0G4qog0F9d1c0G9q000F902o0G9q000F902o0G9q000F",
     "902o0G9q000F902o0G9q000F902o0G9q000F9d1c0G9q000F902o0G9q000F902o0G9q000F"],
    .steady ⟨"+13", 46800⟩⟩,
  ⟨"Pacific/Auckland", [⟨"LMT", 41944⟩, ⟨"NZST", 45000⟩, ⟨"NZMT", 41400⟩, ⟨"NZST", 43200⟩,
      ⟨"NZDT", 46800⟩],
    ["dcswq0Cusn9z4B64ak0Cbiw40D7x5a0Casxe0D7x5a0Casxe0D7x5a0Casxe0D8a3y0Cafyq0D8a3y0Cafyq0D",
     "afvy0C7x820Dasum0C7x820Dasum0C7x820Dasum0C7x820Dasum0C7x820Db5ta0C7k9e0Db5ta0C7x820D2qrd20D",
     "f1tpk0E5reo0Dclpc0E6uao0Dc8qo0E6hc00Dc8qo0E6hc00Dc8qo0E6hc00Dc8qo0E6hc00Dc8qo0E6hc00Dc8qo0E",
     "6uao0Dc8qo0E6hc00Dc8qo0E6hc00Dc8qo0E6hc00Dc8qo0E6hc00Dc8qo0E6hc00Dc8qo0E6uao0Dc8qo0E6hc00D",
     "b5uo0E8a5c0Dafxc0E8a5c0Dafxc0E8a5c0Dafxc0E8n400Da2yo0E8n400Da2yo0E8n400Da2yo0E8n400Dafxc0E",
     "8a5c0Dafxc0E8a5c0Dafxc0E8n400Da2yo0E8n400Da2yo0E8n400Dafxc0E8a5c0Dafxc0E8a5c0Dafxc0E8n400D",
     "a2yo0E8n400Da2yo0E8n400Da2yo0E8n400Da2yo0E"],
    .seasonal ⟨"NZST", 43200⟩ ⟨"NZDT", 46800⟩ ⟨9, 5, 0, 7200⟩ ⟨4, 1, 0, 10800⟩⟩,
  ⟨"Pacific/Bougainville", [⟨"LMT", 37336⟩, ⟨"PMMT", 35312⟩, ⟨"+10", 36000⟩, ⟨"+09", 32400⟩,
      ⟨"+11", 39600⟩],
    ["j6j0a0B7tuc88Cosc24wD1n05g0C1071c40E"],
    .steady ⟨"+11", 39600⟩⟩,
  ⟨"Pacific/Chatham", [⟨"LMT", 44028⟩, ⟨"+1215", 44100⟩, ⟨"+1345", 49500⟩, ⟨"+1245", 45900⟩],
    ["dcsv44B149qqm0Df1tq90C5reo0Dclpc0C6uao0Dc8qo0C6hc00Dc8qo0C6hc00Dc8qo0C6hc00Dc8qo0C6hc00D",
     "c8qo0C6hc00Dc8qo0C6uao0Dc8qo0C6hc00Dc8qo0C6hc00Dc8qo0C6hc00Dc8qo0C6hc00Dc8qo0C6hc00Dc8qo0C",
     "6uao0Dc8qo0C6hc00Db5uo0C8a5c0Dafxc0C8a5c0Dafxc0C8a5c0Dafxc0C8n400Da2yo0C8n400Da2yo0C8n400D",
     "a2yo0C8n400Dafxc0C8a5c0Dafxc0C8a5c0Dafxc0C8n400Da2yo0C8n400Da2yo0C8n400Dafxc0C8a5c0Dafxc0C",
     "8a5c0Dafxc0C8n400Da2yo0C8n400Da2yo0C8n400Da2yo0C8n400Da2yo0C"],
    .seasonal ⟨"+1245", 45900⟩ ⟨"+1345", 49500⟩ ⟨9, 5, 0, 9900⟩ ⟨4, 1, 0, 13500⟩⟩,
  ⟨"Pacific/Easter", [⟨"LMT", (-26248)⟩, ⟨"EMT", (-26248)⟩, ⟨"-06", (-21600)⟩, ⟨"-07", (-25200)⟩,
      ⟨"-05", (-18000)⟩],
    ["oeh6o8Bm9leo0DivmeuwC7k580Dc8tg0C6h980Da31g0C7x3w0Dasys0C7x3w0Db5xg0C7k580Dag040C8a2k0D",
     "b5xg0C7k580Db5xg0C7x3w0Dasys0C7x3w0Dasys0C7x3w0Db5xg0C7k580Db5xg0C7k580Db5xg0C7x3w0Dasys0C",
     "7x3w0Casys0E7x3w0Casys0E7x3w0Cb5xg0E7k580Cb5xg0E7k580Cb5xg0E9cyk0C9d440E7x3w0Casys0E7x3w0C",
     "b5xg0E7k580C9q2s0E8zzw0Cb5xg0E7x3w0Casys0E7x3w0Casys0E7x3w0Casys0E7x3w0Cb5xg0E7k580Cb5xg0E",
     "8n180Ca31g0E7x3w0Ca31g0E9px80C9q2s0E7x3w0Cb5xg0E7k580Cb5xg0E7k580Cb5xg0E7k580Cb5xg0E7x3w0C",
     "asys0E7x3w0Casys0E7x3w0Cb5xg0E7k580Cb5xg0E8n180Ca31g0E7x3w0Casys0E8zzw0C9q2s0East80C5eis0E",
     "cyl80C6hes0Ec8nw0C6udg0Ebvp80C6udg0Evonw0C4olg0Ee1h80C4olg0Ee1h80C4olg0Ec8nw0C7x9g0East80C",
     "7x9g0East80C7x9g0East80C8a840Eafuk0C"],
    .seasonal ⟨"-06", (-21600)⟩ ⟨"-05", (-18000)⟩ ⟨9, 1, 6, 79200⟩ ⟨4, 1, 6, 79200⟩⟩,
  ⟨"Pacific/Efate", [⟨"LMT", 40396⟩, ⟨"+12", 43200⟩, ⟨"+11", 39600⟩],
    ["zwbr90Cwbu364B51hc0C4y8qs0B9cyk0C9d440B9cyk0C9q2s0B8zzw0C9q2s0B9cyk0C9d440B9cyk0C9d440B",
     "9cyk0C9d440B9cyk0C9d440B9cyk0C9q2s0B64ak0Ce1ms0B4ofw0C"],
    .steady ⟨"+11", 39600⟩⟩,
  ⟨"Pacific/Fakaofo", [⟨"LMT", (-41096)⟩, ⟨"-11", (-39600)⟩, ⟨"+13", 46800⟩],
    ["u54e4oB1lxe1igC"],
    .steady ⟨"+13", 46800⟩⟩,
  ⟨"Pacific/Fiji", [⟨"LMT", 42944⟩, ⟨"+13", 46800⟩, ⟨"+12", 43200⟩],
    ["11veym8C17bs00wB64dc0Ccyo00B5reo0C53a5c0B64dc0Casw00B6uao0Cbvs00B4oio0Ce1k00B4oio0Ceeio0B",
     "4bh80Cerk40B3ylc0Cerhc0B3ylc0Cf4g00B3lmo0Cf4g00B3lmo0Cf4g00B3lmo0Cfheo0B38o00Chn6o0B1fuo0C"],
    .steady ⟨"+12", 43200⟩⟩,
  ⟨"Pacific/Galapagos", [⟨"LMT", (-21504)⟩, ⟨"-05", (-18000)⟩, ⟨"-06", (-21600)⟩],
    ["19sqpogBspdryoC3lsas0B3jp80C"],
    .steady ⟨"-06", (-21600)⟩⟩,
  ⟨"Pacific/Gambier", [⟨"LMT", (-32388)⟩, ⟨"-09", (-32400)⟩],
    ["109ui2sB"],
    .steady ⟨"-09", (-32400)⟩⟩,
  ⟨"Pacific/Guadalcanal", [⟨"LMT", 38388⟩, ⟨"+11", 39600⟩],
    ["109szgsB"],
    .steady ⟨"+11", 39600⟩⟩,
  ⟨"Pacific/Guam", [⟨"LMT", (-51660)⟩, ⟨"LMT", 34740⟩, ⟨"GST", 36000⟩, ⟨"+09", 32400⟩,
      ⟨"GDT", 39600⟩, ⟨"ChST", 36000⟩],
    ["wyua4Bt83xc0Cld6pp0D1dl9g0C7s1k40Etxp80C3frms0EqdrpoC7kgacE3ljw0Cc8tg0E6u7w0Cbvus0E6u7w0C",
     "16uo40E3ljw0C16aas0E4ivxoCcls2cE6h980Cc65zw0F"],
    .steady ⟨"ChST", 36000⟩⟩,
  ⟨"Pacific/Honolulu", [⟨"LMT", (-37886)⟩, ⟨"HST", (-37800)⟩, ⟨"HDT", (-34200)⟩, ⟨"HWT", (-34200)⟩,
      ⟨"HPT", (-34200)⟩, ⟨"HST", (-36000)⟩],
    ["rjtzniBjgnatmC13l00B4jvb00D1tyvu0E2e5e0Bvotg0F"],
    .steady ⟨"HST", (-36000)⟩⟩,
  ⟨"Pacific/Kanton", [⟨"-00", 0⟩, ⟨"-12", (-43200)⟩, ⟨"-11", (-39600)⟩, ⟨"+13", 46800⟩],
    ["1d9xnr4Blypqo0C7yiqk0D"],
    .steady ⟨"+13", 46800⟩⟩,
  ⟨"Pacific/Kiritimati", [⟨"LMT", (-37760)⟩, ⟨"-1040", (-38400)⟩, ⟨"-10", (-36000)⟩,
      ⟨"+14", 50400⟩],
    ["u54bk0B153iz5sC7yirhcD"],
    .steady ⟨"+14", 50400⟩⟩,
  ⟨"Pacific/Kosrae", [⟨"LMT", (-47284)⟩, ⟨"LMT", 39116⟩, ⟨"+11", 39600⟩, ⟨"+09", 32400⟩,
      ⟨"+10", 36000⟩, ⟨"+12", 43200⟩],
    ["wyqwkBt83xc0C76a4ykD29hhk0C9cmd40E27sas0D29fk40Ccm2540Ff9l3w0C"],
    .steady ⟨"+11", 39600⟩⟩,
  ⟨"Pacific/Kwajalein", [⟨"LMT", 40160⟩, ⟨"+11", 39600⟩, ⟨"+10", 36000⟩, ⟨"+09", 32400⟩,
      ⟨"-12", (-43200)⟩, ⟨"+12", 43200⟩],
    ["u52nfkBise0fkC27sas0D1hjus0Bddxug0Ecgv6k0F"],
    .steady ⟨"+12", 43200⟩⟩,
  ⟨"Pacific/Marquesas", [⟨"LMT", (-33480)⟩, ⟨"-0930", (-34200)⟩],
    ["109uix4B"],
    .steady ⟨"-0930", (-34200)⟩⟩,
  ⟨"Pacific/Nauru", [⟨"LMT", 40060⟩, ⟨"+1130", 41400⟩, ⟨"+09", 32400⟩, ⟨"+12", 43200⟩],
    ["14lkcucBba66ysC1kwca0Bhfzda0D"],
    .steady ⟨"+12", 43200⟩⟩,
  ⟨"Pacific/Niue", [⟨"LMT", (-40780)⟩, ⟨"-1120", (-40800)⟩, ⟨"-11", (-39600)⟩],
    ["1l660jwB63yiokC"],
    .steady ⟨"-11", (-39600)⟩⟩,
  ⟨"Pacific/Norfolk", [⟨"LMT", 40312⟩, ⟨"+1112", 40320⟩, ⟨"+1130", 41400⟩, ⟨"+1230", 45000⟩,
      ⟨"+11", 39600⟩, ⟨"+12", 43200⟩],
    ["u52nbcBq3einsCcfj8q0D6hc00Cl6nk00E239aq0F"],
    .seasonal ⟨"+11", 39600⟩ ⟨"+12", 43200⟩ ⟨10, 1, 0, 7200⟩ ⟨4, 1, 0, 10800⟩⟩,
  ⟨"Pacific/Noumea", [⟨"LMT", 39948⟩, ⟨"+12", 43200⟩, ⟨"+11", 39600⟩],
    ["zwbrlgCye0ixoB4dbw0Cecqs0B4f6k0C99p700B4oio0C"],
    .steady ⟨"+11", 39600⟩⟩,
  ⟨"Pacific/Pago_Pago", [⟨"LMT", 45432⟩, ⟨"LMT", (-40968)⟩, ⟨"SST", (-39600)⟩],
    ["ppjy14B9nfeo0C"],
    .steady ⟨"SST", (-39600)⟩⟩,
  ⟨"Pacific/Palau", [⟨"LMT", (-54124)⟩, ⟨"LMT", 32276⟩, ⟨"+09", 32400⟩],
    ["wyw6kBt83xc0C"],
    .steady ⟨"+09", 32400⟩⟩,
  ⟨"Pacific/Pitcairn", [⟨"LMT", (-31220)⟩, ⟨"-0830", (-30600)⟩, ⟨"-08", (-28800)⟩],
    ["u546icB1esg26sC"],
    .steady ⟨"-08", (-28800)⟩⟩,
  ⟨"Pacific/Port_Moresby", [⟨"LMT", 35320⟩, ⟨"PMMT", 35312⟩, ⟨"+10", 36000⟩],
    ["j6j1u0B7tuao8C"],
    .steady ⟨"+10", 36000⟩⟩,
  ⟨"Pacific/Rarotonga", [⟨"LMT", 48056⟩, ⟨"LMT", (-38344)⟩, ⟨"-1030", (-37800)⟩, ⟨"-10", (-36000)⟩,
      ⟨"-0930", (-34200)⟩],
    ["tlzg08Brk6io0Cdlv68wE5rbw0Dc8s20E6ham0Dc8s20E6ham0Dc8s20E6u9a0Dc8s20E6ham0Dc8s20E6ham0D",
     "c8s20E6ham0Dc8s20E6ham0Dc8s20E6ham0Dc8s20E6u9a0Dc8s20E6ham0Dc8s20E6ham0Dc8s20E6ham0D"],
    .steady ⟨"-10", (-36000)⟩⟩,
  ⟨"Pacific/Tahiti", [⟨"LMT", (-35896)⟩, ⟨"-10", (-36000)⟩],
    ["109uks8B"],
    .steady ⟨"-10", (-36000)⟩⟩,
  ⟨"Pacific/Tarawa", [⟨"LMT", 41524⟩, ⟨"+12", 43200⟩],
    ["u52mdoB"],
    .steady ⟨"+12", 43200⟩⟩,
  ⟨"Pacific/Tongatapu", [⟨"LMT", 44352⟩, ⟨"+1220", 44400⟩, ⟨"+13", 46800⟩, ⟨"+14", 50400⟩],
    ["1hgqc74B7znjyoCk8amdcD8fpc0Cbvs00D4bh80Ceelg0D4bh80C7pmis0D3lmo0C"],
    .steady ⟨"+13", 46800⟩⟩]

end Worksheet.Zones
